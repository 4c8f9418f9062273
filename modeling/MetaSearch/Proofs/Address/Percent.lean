import MetaSearch.Address.Target
import MetaSearch.Proofs.Text.Parts
import MetaSearch.Proofs.Text.Utf8

/-!
# Percent encoding and back

Decoding is about bytes: `formDecode_eq` says that the text of a form field is what its bytes are read as, whatever runs
it is decoded in.  With that

* `formDecode_formText`: the text of a field comes back from its encoding, and `fields_form`: fields come back from the
  text of their form;
* `fields_encodeRest`: a query that is made regular has the same fields;
* `fields_append`: the fields of two queries with `&` between are those of the one and of the other.
-/

namespace MetaSearch.Percent

/-! ## Bytes -/

/-- Two hexadecimal digits stand at the front of a text. -/
def BeginsHex (s : List Char) : Prop :=
  ∃ a b rest, s = a :: b :: rest ∧ (Json.hexValue? a).isSome ∧ (Json.hexValue? b).isSome

/-- A percent sign is no hexadecimal digit. -/
theorem hexValue?_percent : Json.hexValue? '%' = none := by decide

/-- The digit of a number has its value. -/
theorem hexValue?_hexDigit {n : Nat} (h : n < 16) : Json.hexValue? (hexDigit n) = some n := by
  have hall : ∀ n : Fin 16, Json.hexValue? (hexDigit n) = some n.val := by decide
  exact hall ⟨n, h⟩

/-- What stands for itself is its bytes. -/
theorem bytes_cons {c : Char} (h : c ≠ '%') (s : List Char) : bytes (c :: s) = Utf8.encodeChar c ++ bytes s := by
  rw [bytes]
  intro a b rest heq
  exact absurd heq h

/-- A percent sign before two digits stands, with those, for a byte. -/
theorem bytes_pair {a b : Char} {x y : Nat} (ha : Json.hexValue? a = some x) (hb : Json.hexValue? b = some y)
    (s : List Char) : bytes ('%' :: a :: b :: s) = (16 * x + y).toUInt8 :: bytes s := by
  simp only [bytes, ha, hb]

/-- A percent sign without two digits stands for itself. -/
theorem bytes_mark {s : List Char} (h : ¬ BeginsHex s) : bytes ('%' :: s) = 37 :: bytes s := by
  match s with
  | [] => rfl
  | [a] => rfl
  | a :: b :: rest =>
      cases ha : Json.hexValue? a with
      | none => simp only [bytes, ha]
      | some x =>
          cases hb : Json.hexValue? b with
          | none => simp only [bytes, ha, hb]
          | some y => exact absurd ⟨a, b, rest, rfl, by simp [ha], by simp [hb]⟩ h

/-- An encoded byte comes back. -/
theorem bytes_byte (b : UInt8) (s : List Char) : bytes (byte b ++ s) = b :: bytes s := by
  have hb : b.toNat < 256 := b.toNat_lt
  have hhigh : b.toNat / 16 < 16 := by omega
  have hlow : b.toNat % 16 < 16 := by omega
  have hwhole : 16 * (b.toNat / 16) + b.toNat % 16 = b.toNat := by omega
  rw [byte]
  change bytes ('%' :: hexDigit (b.toNat / 16) :: hexDigit (b.toNat % 16) :: s) = _
  rw [bytes_pair (hexValue?_hexDigit hhigh) (hexValue?_hexDigit hlow), hwhole]
  congr 1
  exact UInt8.ofNat_toNat

/-- Encoded bytes come back. -/
theorem bytes_flatMap_byte (bs : List UInt8) (s : List Char) : bytes (bs.flatMap byte ++ s) = bs ++ bytes s := by
  induction bs with
  | nil => rfl
  | cons b bs ih => rw [List.flatMap_cons, List.append_assoc, bytes_byte, ih, List.cons_append]

/-- What is no digit does not add to the digits before it. -/
theorem BeginsHex.of_append {c : Char} (hdigit : Json.hexValue? c = none) {front s : List Char}
    (h : BeginsHex (front ++ c :: s)) : BeginsHex front := by
  obtain ⟨a, b, rest, heq, ha, hb⟩ := h
  match front with
  | [] =>
      rw [← (List.cons.inj heq).1, hdigit] at ha
      cases ha
  | [d] =>
      rw [← (List.cons.inj (List.cons.inj heq).2).1, hdigit] at hb
      cases hb
  | d :: e :: others =>
      rw [← (List.cons.inj heq).1] at ha
      rw [← (List.cons.inj (List.cons.inj heq).2).1] at hb
      exact ⟨d, e, others, rfl, ha, hb⟩

/-- What is no digit ends the bytes before it. -/
theorem bytes_append {c : Char} (hc : c ≠ '%') (hdigit : Json.hexValue? c = none) (front s : List Char) :
    bytes (front ++ c :: s) = bytes front ++ (Utf8.encodeChar c ++ bytes s) := by
  induction hlength : front.length using Nat.strongRecOn generalizing front with
  | ind n ih =>
      cases front with
      | nil => exact bytes_cons hc s
      | cons d front =>
          rw [List.length_cons] at hlength
          by_cases hd : d = '%'
          · subst hd
            by_cases hhex : BeginsHex front
            · obtain ⟨a, b, rest, rfl, ha, hb⟩ := hhex
              obtain ⟨x, hx⟩ := Option.isSome_iff_exists.mp ha
              obtain ⟨y, hy⟩ := Option.isSome_iff_exists.mp hb
              rw [List.length_cons, List.length_cons] at hlength
              rw [bytes_pair hx hy, List.cons_append]
              change bytes ('%' :: a :: b :: (rest ++ c :: s)) = _
              rw [bytes_pair hx hy, ih rest.length (by omega) rest rfl, List.cons_append]
            · have hlonger : ¬ BeginsHex (front ++ c :: s) := fun h => hhex (h.of_append hdigit)
              rw [List.cons_append, bytes_mark hlonger, bytes_mark hhex, ih front.length (by omega) front rfl,
                List.cons_append]
          · rw [List.cons_append, bytes_cons hd, bytes_cons hd, ih front.length (by omega) front rfl, List.append_assoc]

/-! ## Decoding -/

/-- A character outside ASCII is no hexadecimal digit. -/
theorem hexValue?_of_not_ascii {c : Char} (h : ¬ c.toNat < 128) : Json.hexValue? c = none ∧ c ≠ '%' := by
  have hdigit : ¬ c.isDigit = true := by
    rw [Char.isDigit, Bool.and_eq_true, decide_eq_true_eq, decide_eq_true_eq]
    rintro ⟨-, hnine⟩
    have hnine : c.toNat ≤ 57 := hnine
    omega
  have hsmall : ¬ ('a' ≤ c ∧ c ≤ 'f') := by
    rintro ⟨-, hlast⟩
    have hlast : c.toNat ≤ 102 := hlast
    omega
  have hcapital : ¬ ('A' ≤ c ∧ c ≤ 'F') := by
    rintro ⟨-, hlast⟩
    have hlast : c.toNat ≤ 70 := hlast
    omega
  refine ⟨?_, ?_⟩
  · rw [Json.hexValue?, if_neg hdigit, if_neg hsmall, if_neg hcapital]
  · rintro rfl
    exact h (by decide)

/-- Decoding goes on at every character outside ASCII as if it had been encoded. -/
theorem decodeFrom_eq (run s : List Char) : decodeFrom run s = Utf8.decodeLossy (bytes (run.reverse ++ s)) := by
  induction s generalizing run with
  | nil => rw [decodeFrom, decodeRun, List.append_nil]
  | cons c s ih =>
      rw [decodeFrom]
      split
      · rw [ih, List.reverse_cons, List.append_assoc, List.singleton_append]
      · rename_i hc
        obtain ⟨hdigit, hmark⟩ := hexValue?_of_not_ascii hc
        rw [ih, bytes_append hmark hdigit, Utf8.decodeLossy_append, decodeRun, List.reverse_nil, List.nil_append]

/-- A text without percent signs is its bytes. -/
theorem bytes_of_not_mem {s : List Char} (h : '%' ∉ s) : bytes s = Utf8.encode s := by
  induction s with
  | nil => rfl
  | cons c s ih =>
      have hc : c ≠ '%' := fun heq => h (heq ▸ List.mem_cons_self)
      rw [bytes_cons hc, ih fun hmem => h (List.mem_cons_of_mem c hmem), Utf8.encode, Utf8.encode, List.flatMap_cons]

/-- **A decoded text is what its bytes are read as.** -/
theorem decode_eq (s : String) : decode s = String.ofList (Utf8.decodeLossy (bytes s.toList)) := by
  rw [decode]
  split
  · rw [decodeFrom_eq, List.reverse_nil, List.nil_append]
  · rename_i hmark
    rw [bytes_of_not_mem (by simpa using hmark), Utf8.decodeLossy_encode, String.ofList_toList]

/-- In a form a plus sign is a space. -/
def unplus (c : Char) : Char := if c = '+' then ' ' else c

/-- The text of a form field is what its bytes are read as, plus signs being spaces. -/
theorem formDecode_eq (s : String) :
    formDecode s = String.ofList (Utf8.decodeLossy (bytes (s.toList.map unplus))) := by
  have hplus : (Text.replace "+" " " s).toList = s.toList.map unplus := by
    rw [Text.replace, String.toList_ofList]
    change Text.replaceAll ['+'] [' '] s.toList = _
    rw [Text.replaceAll_singleton, List.map_eq_flatMap]
    refine List.flatMap_congr fun c _ => ?_
    rw [unplus]
    split <;> rfl
  rw [formDecode, decode_eq, hplus]

/-! ## Fields of forms -/

/-- A character of a form field, encoded. -/
def formChar (c : Char) : List Char := if c = ' ' then ['+'] else char (fun _ => false) c

/-- A digit of a byte is a letter or a digit. -/
theorem isAlphanum_hexDigit {n : Nat} (h : n < 16) : (hexDigit n).isAlphanum = true := by
  have hall : ∀ n : Fin 16, (hexDigit n).isAlphanum = true := by decide
  exact hall ⟨n, h⟩

/-- The characters of an encoded byte. -/
theorem mem_byte {b : UInt8} {c : Char} (h : c ∈ byte b) : c = '%' ∨ c.isAlphanum = true := by
  have hb : b.toNat < 256 := b.toNat_lt
  simp only [byte, List.mem_cons, List.not_mem_nil, or_false] at h
  rcases h with rfl | rfl | rfl
  · exact .inl rfl
  · exact .inr (isAlphanum_hexDigit (by omega))
  · exact .inr (isAlphanum_hexDigit (by omega))

/-- The characters of an encoded character. -/
theorem mem_char {safe : Char → Bool} {c d : Char} (h : d ∈ char safe c) :
    d = '%' ∨ isUnreserved d = true ∨ safe d = true := by
  rw [char] at h
  split at h
  · rename_i hc
    rw [List.mem_singleton.mp h]
    exact .inr (by simpa using hc)
  · obtain ⟨b, -, hd⟩ := List.mem_flatMap.mp h
    rcases mem_byte hd with rfl | hd
    · exact .inl rfl
    · exact .inr (.inl (by simp [isUnreserved, hd]))

/-- An encoded character comes back as its bytes. -/
theorem bytes_char {safe : Char → Bool} (hsafe : safe '%' = false) (c : Char) (s : List Char) :
    bytes (char safe c ++ s) = Utf8.encodeChar c ++ bytes s := by
  have hmark : (isUnreserved '%' || safe '%') = false := by rw [hsafe]; decide
  rw [char]
  split
  · rename_i hc
    refine bytes_cons ?_ s
    rintro rfl
    rw [hmark] at hc
    exact Bool.false_ne_true hc
  · exact bytes_flatMap_byte _ s

/-- Only a space is encoded as a space's byte. -/
theorem toNat_ne_of_mem_encodeChar {c : Char} (hc : c ≠ ' ') {b : UInt8} (hb : b ∈ Utf8.encodeChar c) :
    b.toNat ≠ 32 := by
  have hspace : c.toNat ≠ 32 := fun h => hc (Char.ext (UInt32.toNat_inj.mp h))
  have hvalid : c.toNat < 0xD800 ∨ 0xDFFF < c.toNat ∧ c.toNat < 0x110000 := c.valid
  have hnext : ∀ m : Nat, (0x80 + m % 0x40).toUInt8.toNat = 0x80 + m % 0x40 := fun m => Utf8.toNat_toUInt8 (by omega)
  simp only [Utf8.encodeChar] at hb
  split at hb
  · rw [List.mem_singleton.mp hb, Utf8.toNat_toUInt8 (by omega)]
    exact hspace
  · split at hb
    · simp only [List.mem_cons, List.not_mem_nil, or_false] at hb
      rcases hb with rfl | rfl
      · rw [Utf8.toNat_toUInt8 (by omega)]
        omega
      · rw [hnext]
        omega
    · split at hb
      · simp only [List.mem_cons, List.not_mem_nil, or_false] at hb
        rcases hb with rfl | rfl | rfl
        · rw [Utf8.toNat_toUInt8 (by omega)]
          omega
        · rw [hnext]
          omega
        · rw [hnext]
          omega
      · simp only [List.mem_cons, List.not_mem_nil, or_false] at hb
        rcases hb with rfl | rfl | rfl | rfl
        · rw [Utf8.toNat_toUInt8 (by omega)]
          omega
        · rw [hnext]
          omega
        · rw [hnext]
          omega
        · rw [hnext]
          omega

/-- A byte other than that of a space is no place for a plus sign. -/
theorem replaceAll_byte {b : UInt8} (hb : b.toNat ≠ 32) (s : List Char) :
    Text.replaceAll ['%', '2', '0'] ['+'] (byte b ++ s) = byte b ++ Text.replaceAll ['%', '2', '0'] ['+'] s := by
  have hlt : b.toNat < 256 := b.toNat_lt
  have hhigh : b.toNat / 16 < 16 := by omega
  have hlow : b.toNat % 16 < 16 := by omega
  have hdigits : ¬ ('2' = hexDigit (b.toNat / 16) ∧ '0' = hexDigit (b.toNat % 16)) := by
    rintro ⟨htwo, hzero⟩
    have hfirst := hexValue?_hexDigit hhigh
    have hsecond := hexValue?_hexDigit hlow
    rw [← htwo] at hfirst
    rw [← hzero] at hsecond
    have hfirst : 2 = b.toNat / 16 := Option.some.inj hfirst
    have hsecond : 0 = b.toNat % 16 := Option.some.inj hsecond
    omega
  have hmark : ∀ {n : Nat}, n < 16 → '%' ≠ hexDigit n := by
    intro n hn heq
    have halphanum := isAlphanum_hexDigit hn
    rw [← heq] at halphanum
    exact absurd halphanum (by decide)
  have hbyte : Text.begins ['%', '2', '0'] (byte b ++ s) = false := by
    simp only [byte, Text.begins, List.cons_append, Text.after?, if_true]
    split
    · rename_i htwo
      rw [if_neg fun hzero => hdigits ⟨htwo, hzero⟩]
      rfl
    · rfl
  rw [byte, List.cons_append, List.cons_append, List.cons_append, List.nil_append] at hbyte ⊢
  rw [Text.replaceAll_cons hbyte, Text.replaceAll_cons (by simp [Text.begins, Text.after?, hmark hhigh]),
    Text.replaceAll_cons (by simp [Text.begins, Text.after?, hmark hlow])]
  rfl

/-- Bytes other than that of a space are no place for a plus sign. -/
theorem replaceAll_bytes {bs : List UInt8} (hbs : ∀ b ∈ bs, b.toNat ≠ 32) (s : List Char) :
    Text.replaceAll ['%', '2', '0'] ['+'] (bs.flatMap byte ++ s) =
      bs.flatMap byte ++ Text.replaceAll ['%', '2', '0'] ['+'] s := by
  induction bs with
  | nil => rfl
  | cons b bs ih =>
      rw [List.flatMap_cons, List.append_assoc, replaceAll_byte (hbs b List.mem_cons_self),
        ih fun d hd => hbs d (List.mem_cons_of_mem b hd), List.append_assoc]

/-- A character of a form, in front of any others. -/
theorem replaceAll_char (c : Char) (s : List Char) :
    Text.replaceAll ['%', '2', '0'] ['+'] (char (fun _ => false) c ++ s) =
      formChar c ++ Text.replaceAll ['%', '2', '0'] ['+'] s := by
  by_cases hspace : c = ' '
  · subst hspace
    exact Text.replaceAll_part '%' ['2', '0'] ['+'] s
  · rw [formChar, if_neg hspace, char]
    split
    · rename_i hsafe
      have hmark : '%' ≠ c := by
        rintro rfl
        exact absurd hsafe (by decide)
      rw [List.singleton_append, Text.replaceAll_cons (by simp [Text.begins, Text.after?, hmark])]
      rfl
    · exact replaceAll_bytes (fun b hb => toNat_ne_of_mem_encodeChar hspace hb) s

/-- The text of a form field is encoded character by character. -/
theorem toList_formText (s : String) : (formText s).toList = s.toList.flatMap formChar := by
  have hquote : (quote "" s).toList = encode (fun _ => false) s.toList := by
    rw [quote, String.toList_ofList]
    rfl
  rw [formText, Text.replace, String.toList_ofList, hquote]
  change Text.replaceAll ['%', '2', '0'] ['+'] (encode (fun _ => false) s.toList) = _
  induction s.toList with
  | nil => rfl
  | cons c s ih => rw [encode, List.flatMap_cons, ← encode, replaceAll_char, ih, List.flatMap_cons]

/-- What is encoded for a form is no separator of forms. -/
theorem not_separator_of_mem_formText {s : String} {c : Char} (h : c ∈ (formText s).toList) : c ≠ '&' ∧ c ≠ '=' := by
  rw [toList_formText] at h
  obtain ⟨d, -, hc⟩ := List.mem_flatMap.mp h
  rw [formChar] at hc
  split at hc
  · rw [List.mem_singleton.mp hc]
    exact ⟨by decide, by decide⟩
  · rcases mem_char hc with rfl | hc | hc
    · exact ⟨by decide, by decide⟩
    · constructor
      · rintro rfl
        exact absurd hc (by decide)
      · rintro rfl
        exact absurd hc (by decide)
    · exact absurd hc Bool.false_ne_true

/-- An encoded character of a form comes back. -/
theorem bytes_formChar (c : Char) (s : List Char) :
    bytes ((formChar c).map unplus ++ s) = Utf8.encodeChar c ++ bytes s := by
  by_cases hspace : c = ' '
  · subst hspace
    exact bytes_cons (by decide) s
  · have hsame : (formChar c).map unplus = char (fun _ => false) c := by
      rw [formChar, if_neg hspace]
      conv => rhs; rw [← List.map_id (char _ c)]
      refine List.map_congr_left fun d hd => if_neg ?_
      rintro rfl
      rcases mem_char hd with hd | hd | hd
      · exact absurd hd (by decide)
      · exact absurd hd (by decide)
      · exact absurd hd Bool.false_ne_true
    rw [hsame]
    exact bytes_char rfl c s

/-- **The text of a form field comes back from its encoding.** -/
theorem formDecode_formText (s : String) : formDecode (formText s) = s := by
  have hbytes : ∀ s : List Char, bytes ((s.flatMap formChar).map unplus) = Utf8.encode s := by
    intro s
    induction s with
    | nil => rfl
    | cons c s ih =>
        rw [List.flatMap_cons, List.map_append, bytes_formChar, ih, Utf8.encode, Utf8.encode, List.flatMap_cons]
  rw [formDecode_eq, toList_formText, hbytes, Utf8.decodeLossy_encode, String.ofList_toList]

/-- The field that a part of a query stands for. -/
def field? (part : List Char) : Option (String × String) :=
  if part.isEmpty then none
  else
    match Text.cut? ['='] part with
    | some (name, value) => some (formDecode (String.ofList name), formDecode (String.ofList value))
    | none => some (formDecode (String.ofList part), "")

/-- The fields of a query are those of its parts. -/
theorem fields_eq (query : String) : fields query = (Text.splitOn ['&'] query.toList).filterMap field? := by
  rw [fields, Text.split, List.filterMap_map]
  refine List.filterMap_congr fun part _ => ?_
  simp only [Function.comp, field?, Text.cutAt?, String.toList_ofList]
  by_cases hpart : part = []
  · simp [hpart]
  · have hne : (String.ofList part).isEmpty = false := by simpa using hpart
    have hne' : part.isEmpty = false := by simpa using hpart
    have hmark : "=".toList = ['='] := rfl
    simp only [hne, hne', Bool.false_eq_true, if_false, hmark]
    cases Text.cut? ['='] part <;> rfl

/-- The fields of two queries with an ampersand between. -/
theorem fields_append (first rest : List Char) :
    fields (String.ofList (first ++ '&' :: rest)) = fields (String.ofList first) ++ fields (String.ofList rest) := by
  simp only [fields_eq, String.toList_ofList, Text.splitOn_append, List.filterMap_append]

/-- A field comes back from its encoding. -/
theorem field?_formText (name value : String) :
    field? ((formText name).toList ++ '=' :: (formText value).toList) = some (name, value) := by
  have hmark : '=' ∉ (formText name).toList := fun h => (not_separator_of_mem_formText h).2 rfl
  have hne : ((formText name).toList ++ '=' :: (formText value).toList).isEmpty = false := by simp
  rw [field?, hne, Text.cut?_append hmark]
  simp only [Bool.false_eq_true, if_false, String.ofList_toList, formDecode_formText]

/-- **Fields come back from the text of their form.** -/
theorem fields_form (fs : List (String × String)) : fields (form fs) = fs := by
  have hpart : ∀ name value : String, '&' ∉ (formText name ++ "=" ++ formText value).toList := by
    intro name value h
    simp only [String.toList_append, List.mem_append] at h
    rcases h with (h | h) | h
    · exact (not_separator_of_mem_formText h).1 rfl
    · exact absurd h (by decide)
    · exact (not_separator_of_mem_formText h).1 rfl
  have hfield : ∀ name value : String,
      [(formText name ++ "=" ++ formText value).toList].filterMap field? = [(name, value)] := by
    intro name value
    have htext : (formText name ++ "=" ++ formText value).toList =
        (formText name).toList ++ '=' :: (formText value).toList := by simp
    rw [htext, List.filterMap_cons, field?_formText]
    rfl
  induction fs with
  | nil => rfl
  | cons f fs ih =>
      obtain ⟨name, value⟩ := f
      cases fs with
      | nil =>
          rw [fields_eq, form, List.map_singleton, String.intercalate_singleton,
            Text.splitOn_of_not_mem (hpart name value), hfield]
      | cons g fs =>
          have hform : (form ((name, value) :: g :: fs)).toList =
              (formText name ++ "=" ++ formText value).toList ++ '&' :: (form (g :: fs)).toList := by
            rw [form, List.map_cons, List.map_cons, String.intercalate_cons_cons, String.toList_append,
              String.toList_append, List.append_assoc]
            rfl
          rw [fields_eq, hform, Text.splitOn_append, Text.splitOn_of_not_mem (hpart name value), List.filterMap_append,
            hfield, ← fields_eq, ih]
          rfl

/-! ## Queries made regular -/

/-- A character of a query, encoded unless it may stand there. -/
def queryChar (c : Char) : List Char :=
  if Target.isQueryChar c then [c] else (Utf8.encodeChar c).flatMap byte

/-- A hexadecimal digit may stand in a query. -/
theorem isQueryChar_of_hexValue? {c : Char} (h : (Json.hexValue? c).isSome) : Target.isQueryChar c = true := by
  have hascii : c.toNat < 128 := by
    by_contra hc
    rw [(hexValue?_of_not_ascii hc).1] at h
    cases h
  have hall : ∀ n : Fin 128, (Json.hexValue? (Char.ofNat n)).isSome → Target.isQueryChar (Char.ofNat n) = true := by
    decide
  have hc := hall ⟨c.toNat, hascii⟩
  rw [show Char.ofNat c.toNat = c from Char.ofNat_toNat c] at hc
  exact hc h

/-- A query is made regular character by character. -/
theorem encodeRest_eq (s : List Char) : Target.encodeRest Target.isQueryChar s = s.flatMap queryChar := by
  have hmark : queryChar '%' = ['%'] := by decide
  fun_induction Target.encodeRest Target.isQueryChar s with
  | case1 a b s hhex ih =>
      rw [Bool.and_eq_true] at hhex
      have ha : queryChar a = [a] := if_pos (isQueryChar_of_hexValue? hhex.1)
      have hb : queryChar b = [b] := if_pos (isQueryChar_of_hexValue? hhex.2)
      rw [ih, List.flatMap_cons, List.flatMap_cons, List.flatMap_cons, hmark, ha, hb]
      rfl
  | case2 a b s hhex ih =>
      rw [ih]
      rfl
  | case3 c s hother ih =>
      rw [ih]
      rfl
  | case4 => rfl

/-- A character of a query in its form after plus signs are read: it stands as it is, or it is encoded and is no digit,
no percent sign and no plus sign. -/
theorem map_unplus_queryChar (c : Char) :
    (queryChar c).map unplus = [unplus c] ∨
      (queryChar c).map unplus = (Utf8.encodeChar c).flatMap byte ∧ c ≠ '%' ∧ unplus c = c ∧
        ∃ rest, (queryChar c).map unplus = '%' :: rest := by
  by_cases hsafe : Target.isQueryChar c = true
  · exact .inl (by rw [queryChar, if_pos hsafe]; rfl)
  · have hmark : c ≠ '%' := by
      rintro rfl
      exact hsafe (by decide)
    have hplus : unplus c = c := if_neg (by
      rintro rfl
      exact hsafe (by decide))
    have hsame : ((Utf8.encodeChar c).flatMap byte).map unplus = (Utf8.encodeChar c).flatMap byte := by
      conv => rhs; rw [← List.map_id ((Utf8.encodeChar c).flatMap byte)]
      refine List.map_congr_left fun d hd => if_neg ?_
      rintro rfl
      obtain ⟨b, -, hb⟩ := List.mem_flatMap.mp hd
      rcases mem_byte hb with hb | hb
      · exact absurd hb (by decide)
      · exact absurd hb (by decide)
    obtain ⟨b, bs, hbytes, -⟩ := Utf8.head_encodeChar c
    refine .inr ⟨by rw [queryChar, if_neg hsafe, hsame], hmark, hplus, ?_⟩
    rw [queryChar, if_neg hsafe, hsame, hbytes, List.flatMap_cons]
    exact ⟨_, rfl⟩

/-- A plus sign is no digit. -/
theorem unplus_of_hexValue? {c : Char} (h : (Json.hexValue? (unplus c)).isSome) : unplus c = c := by
  rw [unplus] at h ⊢
  split at h
  · exact absurd h (by decide)
  · rename_i hplus
    exact if_neg hplus

/-- Digits at the front of a text stood there before plus signs were read. -/
theorem BeginsHex.of_map_unplus {s : List Char} (h : BeginsHex (s.map unplus)) : BeginsHex s := by
  obtain ⟨a, b, rest, heq, ha, hb⟩ := h
  match s with
  | [] => cases heq
  | [c] => cases heq
  | c :: d :: s =>
      obtain ⟨hc, hd⟩ := List.cons.inj heq
      rw [← hc] at ha
      rw [← (List.cons.inj hd).1] at hb
      rw [unplus_of_hexValue? ha] at ha
      rw [unplus_of_hexValue? hb] at hb
      exact ⟨c, d, s, rfl, ha, hb⟩

/-- A digit at the front of a regular query is the first character of the query. -/
theorem head_regular {c a : Char} {s rest : List Char} (h : ((c :: s).flatMap queryChar).map unplus = a :: rest)
    (ha : (Json.hexValue? a).isSome) : a = c ∧ (s.flatMap queryChar).map unplus = rest := by
  rw [List.flatMap_cons, List.map_append] at h
  rcases map_unplus_queryChar c with hc | ⟨-, -, -, tail, hc⟩
  · rw [hc, List.singleton_append] at h
    obtain ⟨rfl, hrest⟩ := List.cons.inj h
    exact ⟨unplus_of_hexValue? ha, hrest⟩
  · rw [hc, List.cons_append] at h
    rw [← (List.cons.inj h).1, hexValue?_percent] at ha
    cases ha

/-- Digits at the front of a regular query stood there before. -/
theorem BeginsHex.of_regular {s : List Char} (h : BeginsHex ((s.flatMap queryChar).map unplus)) : BeginsHex s := by
  obtain ⟨a, b, rest, heq, ha, hb⟩ := h
  cases s with
  | nil => cases heq
  | cons c s =>
      obtain ⟨hc, hnext⟩ := head_regular heq ha
      cases s with
      | nil => cases hnext
      | cons d s =>
          obtain ⟨hd, -⟩ := head_regular hnext hb
          rw [hc] at ha
          rw [hd] at hb
          exact ⟨c, d, s, rfl, ha, hb⟩

/-- **A regular query has the same bytes.** -/
theorem bytes_regular (s : List Char) : bytes ((s.flatMap queryChar).map unplus) = bytes (s.map unplus) := by
  induction hlength : s.length using Nat.strongRecOn generalizing s with
  | ind n ih =>
      cases s with
      | nil => rfl
      | cons c s =>
          rw [List.length_cons] at hlength
          have hrest := ih s.length (by omega) s rfl
          by_cases hc : c = '%'
          · subst hc
            have hmark : ∀ t : List Char, (('%' :: t).flatMap queryChar).map unplus =
                '%' :: (t.flatMap queryChar).map unplus := fun t => rfl
            rw [hmark, List.map_cons]
            by_cases hhex : BeginsHex s
            · obtain ⟨a, b, rest, rfl, ha, hb⟩ := hhex
              obtain ⟨x, hx⟩ := Option.isSome_iff_exists.mp ha
              obtain ⟨y, hy⟩ := Option.isSome_iff_exists.mp hb
              have hdigit : ∀ d, (Json.hexValue? d).isSome → queryChar d = [d] ∧ unplus d = d := by
                intro d hd
                refine ⟨if_pos (isQueryChar_of_hexValue? hd), if_neg ?_⟩
                rintro rfl
                exact absurd hd (by decide)
              rw [List.length_cons, List.length_cons] at hlength
              rw [List.flatMap_cons, List.flatMap_cons, (hdigit a ha).1, (hdigit b hb).1, List.map_append,
                List.map_append, List.map_singleton, List.map_singleton, List.map_cons, List.map_cons, (hdigit a ha).2,
                (hdigit b hb).2]
              change bytes ('%' :: a :: b :: (rest.flatMap queryChar).map unplus) =
                bytes ('%' :: a :: b :: rest.map unplus)
              rw [bytes_pair hx hy, bytes_pair hx hy, ih rest.length (by omega) rest rfl]
            · change bytes ('%' :: (s.flatMap queryChar).map unplus) = bytes ('%' :: s.map unplus)
              rw [bytes_mark fun h => hhex h.of_regular, bytes_mark fun h => hhex h.of_map_unplus, hrest]
          · rw [List.flatMap_cons, List.map_append, List.map_cons]
            rcases map_unplus_queryChar c with hplain | ⟨hencoded, -, hplus, -⟩
            · have hmark : unplus c ≠ '%' := by
                rw [unplus]
                split
                · decide
                · exact hc
              rw [hplain, List.singleton_append, bytes_cons hmark, bytes_cons hmark, hrest]
            · rw [hencoded, bytes_flatMap_byte, hplus, bytes_cons hc, hrest]

/-- A regular text of a field is decoded as the text itself. -/
theorem formDecode_regular (s : List Char) :
    formDecode (String.ofList (s.flatMap queryChar)) = formDecode (String.ofList s) := by
  rw [formDecode_eq, formDecode_eq, String.toList_ofList, String.toList_ofList, bytes_regular]

/-- A mark of its own that nothing else is encoded with. -/
structure IsMark (mark : Char) : Prop where
  self : queryChar mark = [mark]
  others : ∀ c, c ≠ mark → mark ∉ queryChar c

/-- What stands in a query apart from percent signs, letters and digits is a mark of its own. -/
theorem isMark {mark : Char} (hsafe : Target.isQueryChar mark = true) (hmark : mark ≠ '%')
    (halphanum : mark.isAlphanum = false) : IsMark mark := by
  refine ⟨if_pos hsafe, fun c hc hmem => ?_⟩
  rw [queryChar] at hmem
  split at hmem
  · exact hc (List.mem_singleton.mp hmem).symm
  · obtain ⟨b, -, hb⟩ := List.mem_flatMap.mp hmem
    rcases mem_byte hb with hb | hb
    · exact hmark hb
    · rw [hb] at halphanum
      cases halphanum

/-- A regular query falls apart where the query does. -/
theorem splitOn_regular {mark : Char} (hmark : IsMark mark) (s : List Char) :
    Text.splitOn [mark] (s.flatMap queryChar) = (Text.splitOn [mark] s).map (·.flatMap queryChar) := by
  induction s with
  | nil => rfl
  | cons c s ih =>
      by_cases hc : c = mark
      · subst hc
        have hfirst := Text.splitOn_append c [] (s.flatMap queryChar)
        have hsecond := Text.splitOn_append c [] s
        rw [List.nil_append] at hfirst hsecond
        rw [List.flatMap_cons, hmark.self, List.singleton_append, hfirst, hsecond, ih, List.map_append]
        rfl
      · obtain ⟨first, rest, hsplit, hfront⟩ := Text.splitOn_front mark s
        obtain ⟨first', rest', hsplit', hfront'⟩ := Text.splitOn_front mark (s.flatMap queryChar)
        rw [hsplit, hsplit', List.map_cons] at ih
        obtain ⟨rfl, rfl⟩ := List.cons.inj ih
        have hwhole : Text.splitOn [mark] (c :: s) = (c :: first) :: rest := hfront [c] (by simpa using Ne.symm hc)
        rw [List.flatMap_cons, hfront' _ (hmark.others c hc), hwhole, List.map_cons, List.flatMap_cons]

/-- A regular part is cut where the part is. -/
theorem cut?_regular {mark : Char} (hmark : IsMark mark) (s : List Char) :
    Text.cut? [mark] (s.flatMap queryChar) =
      (Text.cut? [mark] s).map fun (name, value) => (name.flatMap queryChar, value.flatMap queryChar) := by
  induction s with
  | nil => rfl
  | cons c s ih =>
      by_cases hc : c = mark
      · subst hc
        rw [List.flatMap_cons, hmark.self, List.singleton_append]
        simp only [Text.cut?, Text.after?_singleton, if_true]
        rfl
      · have hwhole : Text.cut? [mark] (c :: s) = (Text.cut? [mark] s).map fun (first, rest) => (c :: first, rest) :=
          Text.cut?_front (show mark ∉ [c] by simpa using Ne.symm hc) s
        rw [List.flatMap_cons, Text.cut?_front (hmark.others c hc), hwhole, ih, Option.map_map, Option.map_map]
        rfl

/-- **A query that is made regular has the same fields.** -/
theorem fields_encodeRest (s : List Char) :
    fields (String.ofList (Target.encodeRest Target.isQueryChar s)) = fields (String.ofList s) := by
  have hand : IsMark '&' := isMark (by decide) (by decide) (by decide)
  have hequal : IsMark '=' := isMark (by decide) (by decide) (by decide)
  rw [encodeRest_eq, fields_eq, fields_eq, String.toList_ofList, String.toList_ofList, splitOn_regular hand,
    List.filterMap_map]
  refine List.filterMap_congr fun part _ => ?_
  have hempty : (part.flatMap queryChar).isEmpty = part.isEmpty := by
    cases part with
    | nil => rfl
    | cons c rest =>
        have hc : queryChar c ≠ [] := by
          rcases map_unplus_queryChar c with h | ⟨-, -, -, rest, h⟩
          · exact fun hnil => by simp [hnil] at h
          · exact fun hnil => by simp [hnil] at h
        simp [hc]
  simp only [Function.comp, field?, hempty, cut?_regular hequal]
  cases Text.cut? ['='] part with
  | none => simp only [Option.map_none, formDecode_regular]
  | some pieces => simp only [Option.map_some, formDecode_regular]

end MetaSearch.Percent
