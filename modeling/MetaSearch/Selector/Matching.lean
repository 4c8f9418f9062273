import MetaSearch.Markup.Page
import MetaSearch.Selector.Basic
import MetaSearch.Text.Letter

/-!
# What a selector names

`selects` decides whether an element of a page meets one of a selector's alternatives, `select` lists the
elements inside another that do, in the order of the page.
-/

namespace MetaSearch.Selector

open Markup

/-- Where elements are looked for: the page, the element the search is confined to, and the outermost
element. -/
structure View where
  page : Page
  scope : Nat
  root : Option Nat

namespace View

/-- The view of a search inside a part of a page. -/
def inside (page : Page) (id : Nat) : View :=
  let top := (page.ancestors id).getLast?.getD id
  match (page.part top).content with
  | .page =>
    let root := (page.children top).find? page.isTag
    { page, root, scope := if id = top then root.getD id else id }
  | _ => { page, scope := id, root := some top }

/-- A text as names are compared: ASCII letters small. -/
def small (s : String) : String := String.ofList (s.toList.map Char.toLower)

/-- Whether two texts agree, with or without regard to case. -/
def agree (caseless : Bool) (a b : List Char) : Bool :=
  a.length == b.length &&
    (a.zip b).all fun (x, y) => if caseless then Text.sameLetter x y else x == y

/-- Whether a text agrees with another up to a line end behind it. -/
def agreeToEnd (caseless : Bool) (expected s : List Char) : Bool :=
  agree caseless expected s ||
    (s.getLast? == some '\n' && agree caseless expected s.dropLast)

/-- Whether a text begins with another. -/
def agreeFront (caseless : Bool) (expected s : List Char) : Bool :=
  agree caseless expected (s.take expected.length)

/-- The texts that are left when characters are dropped from the front. -/
def tails : List Char → List (List Char)
  | [] => [[]]
  | c :: s => (c :: s) :: tails s

/-- Whether one of the words that blanks part in a text agrees with another. -/
def holdsWord (caseless : Bool) (expected : List Char) (atStart : Bool) : List Char → Bool
  | [] => false
  | c :: s =>
    (atStart && agreeFront caseless expected (c :: s) &&
      (((c :: s).drop expected.length).head?.all Scan.isSpace)) ||
      holdsWord caseless expected (Scan.isSpace c) s

/-- Whether the value of an attribute compares as wanted with a text. -/
def compares (caseless : Bool) (value : String) : Comparison → String → Bool
  | .equal, s => agreeToEnd caseless s.toList value.toList
  | .begins, s => agreeFront caseless s.toList value.toList
  | .ends, s => (tails value.toList).any fun t => agreeToEnd caseless s.toList t
  | .holds, s => (tails value.toList).any fun t => agreeFront caseless s.toList t
  | .word, s => !s.isEmpty && !s.toList.any Scan.isSpace && holdsWord caseless s.toList true value.toList
  | .dashed, s =>
    agreeToEnd caseless s.toList value.toList || agreeFront caseless (s.toList ++ ['-']) value.toList

/-- The value of an attribute whose name is given in any case. -/
def attribute? (v : View) (id : Nat) (name : String) : Option String :=
  ((v.page.attributes id).find? fun (n, _) => small n == small name).map (·.2)

/-- Whether a text consists of blanks alone. -/
def isBlankText (c : Content) : Bool :=
  match c with
  | .text _ s => s.toList.all Scan.isSpace
  | _ => true

/-- Whether a part is an inner frame, the contents of which belong to no page. -/
def isFrame (v : View) (id : Nat) : Bool :=
  (v.page.name? id).any fun n => small n == "iframe"

/-- Whether an element holds nothing but blanks and remarks. -/
def isEmpty (v : View) (id : Nat) : Bool :=
  v.isFrame id || (v.page.children id).all fun child =>
    !v.page.isTag child && isBlankText (v.page.part child).content

/-- Whether an element is the outermost one, with nothing but blanks and remarks beside it. -/
def isRoot (v : View) (id : Nat) : Bool :=
  (v.root == some id ||
    (((v.page.parent? id).map v.isFrame).getD false)) &&
    (v.page.before id ++ v.page.after id).all fun other =>
      !v.page.isTag other &&
        (match (v.page.part other).content with
         | .text _ s => (Text.strip s).isEmpty
         | _ => true)

/-- The texts directly in an element. -/
def ownTexts (v : View) (id : Nat) : List String :=
  if v.isFrame id then []
  else (v.page.children id).filterMap fun child =>
    match (v.page.part child).content with
    | .text _ s => some s
    | _ => none

/-- The whole text in an element in the order of the page, to a depth. -/
def orderedText (v : View) : (depth : Nat) → Nat → String
  | 0, _ => ""
  | depth + 1, id =>
    if v.isFrame id then ""
    else String.join ((v.page.children id).map fun child =>
      match (v.page.part child).content with
      | .text _ s => s
      | .element .. => orderedText v depth child
      | _ => "")

/-- Whether an element tells one of some texts. -/
def tells (v : View) (id : Nat) (texts : List String) (own : Bool) : Bool :=
  if own then texts.any fun t => (v.ownTexts id).any (Text.contains · t)
  else
    let whole := v.orderedText v.page.parts.size id
    texts.any (Text.contains whole)

/-- Whether a number is `step * n + offset` for some natural number `n`. -/
def onSteps (step offset : Int) (place : Nat) : Bool :=
  if step = 0 then (place : Int) == offset
  else
    let distance := (place : Int) - offset
    distance % step == 0 && 0 ≤ distance / step

/-- Whether the language of an element is in one of some ranges. -/
def languageIs (v : View) (id : Nat) (ranges : List String) : Bool :=
  match (id :: v.page.ancestors id).findSome? fun a => v.attribute? a "lang" with
  | none => false
  | some language =>
    let subtags := Text.split "-" (small language)
    ranges.any fun range =>
      match Text.split "-" (small range), subtags with
      | r :: rs, s :: ss =>
        (r == s && (!r.isEmpty || (rs.isEmpty && ss.isEmpty)) || (r == "*" && !(s.isEmpty && ss.isEmpty))) &&
          inOrder (rs.filter (· != "*")) ss
      | _, _ => false
where
  /-- Whether the parts of a range come in order among subtags, with no single letter passed over. -/
  inOrder : List String → List String → Bool
    | [], _ => true
    | _ :: _, [] => false
    | r :: rs, s :: ss => if r == s then inOrder rs ss else s.length != 1 && inOrder (r :: rs) ss

/-- Whether the text of an element runs from right to left, by the nearest of it and what it lies in that says so;
where nothing does, the outermost element runs from left to right. -/
def leftwards? (v : View) (id : Nat) : Option Bool :=
  (id :: v.page.ancestors id).findSome? fun a =>
    match (v.attribute? a "dir").map small with
    | some "ltr" => some false
    | some "rtl" => some true
    | _ => if v.isRoot a then some false else none

/-- Whether an element meets a condition; `fuel` bounds how deep conditions are nested. -/
def meets (v : View) : (fuel : Nat) → Nat → Condition → Bool
  | 0, _, _ => false
  | fuel + 1, id, condition =>
    let all (cs : List Condition) (id : Nat) : Bool := cs.all (meets v fuel id)
    match condition with
    | .tag name => name == "*" || (v.page.name? id).any fun n => small n == small name
    | .id name => (v.attribute? id "id").getD "" == name
    | .ofClass name => ((v.attribute? id "class").map (Text.split " ")).any (·.contains name)
    | .attribute name comparison caseless =>
      match v.attribute? id name with
      | none => false
      | some value => comparison.all fun (c, s) => compares caseless value c s
    | .place step offset sameName fromEnd among =>
      let counts (other : Nat) : Bool :=
        v.page.isTag other &&
          (!sameName || (v.page.name? other).map small == (v.page.name? id).map small) &&
          (among.isEmpty || among.any (all · other))
      counts id &&
        onSteps step offset
          (((if fromEnd then v.page.after id else v.page.before id).filter counts).length + 1)
    | .oneOf alternatives => alternatives.any (all · id)
    | .noneOf alternatives => !alternatives.any (all · id)
    | .stands relation cs =>
      match relation with
      | .inside => (v.page.ancestors id).any (all cs)
      | .child => (v.page.parent? id).any (all cs)
      | .beside => ((v.page.before id).filter v.page.isTag).any (all cs)
      | .next => ((v.page.before id).find? v.page.isTag).any (all cs)
    | .holds relation cs =>
      match relation with
      | .inside => ((v.page.descendants id).filter v.page.isTag).any (all cs)
      | .child => ((v.page.children id).filter v.page.isTag).any (all cs)
      | .beside => ((v.page.after id).filter v.page.isTag).any (all cs)
      | .next => ((v.page.after id).find? v.page.isTag).any (all cs)
    | .tells texts own => v.tells id texts own
    | .language ranges => v.languageIs id ranges
    | .runs leftwards => v.leftwards? id == some leftwards
    | .root => v.isRoot id
    | .scope => v.scope == id
    | .empty => v.isEmpty id
    | .standard => (v.page.name? id).any fun n => !n.toList.contains '-' || n.toList.contains ':'
    | .never => false

/-- Whether an element meets one of a selector's alternatives. -/
def selects (v : View) (selector : List (List Condition)) (id : Nat) : Bool :=
  selector.any fun conditions => conditions.all (v.meets (alternativesDepth selector) id)

end View

/-- The elements inside a part of a page that a selector names. -/
def select (page : Page) (id : Nat) (selector : List (List Condition)) : List Nat :=
  let v := View.inside page id
  (page.descendants id).filter fun other => page.isTag other && v.selects selector other

/-- Whether a selector names an element itself. -/
def names (page : Page) (id : Nat) (selector : List (List Condition)) : Bool :=
  (View.inside page id).selects selector id

end MetaSearch.Selector
