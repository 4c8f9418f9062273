import MetaSearch.Proofs.Template.Pass
import Mathlib.Logic.Function.Iterate

/-!
# What a template evaluates to

The passes over the text of a template come to what the template stands for.  `settle_eq_iterate` says that stopping
at a fixed point is no different from going on, `source_of_settled` that a template without actions and if-blocks
stands for itself, and `evaluate_source` puts them together: values are copied as they are, whatever they hold, and
never read as a template.
-/

namespace MetaSearch.Template

/-- Passes until nothing changes are as good as all of them. -/
theorem settle_eq_iterate (env : Environment) (encode : String → String) (n : Nat) (s : List Char) :
    settle env encode n s = (rewrite env encode)^[n] s := by
  induction n generalizing s with
  | zero => rfl
  | succ n ih =>
      rw [Function.iterate_succ_apply]
      simp only [settle]
      split
      · rename_i hfix
        rw [hfix, Function.iterate_fixed hfix]
      · exact ih _

namespace Form

/-- The texts of values are held. -/
def heldImage (encode : String → String) (text : String) : List Char :=
  (encode text).toList.map hold

/-- The tree after one pass. -/
def pass (env : Environment) (encode : String → String) (f : Form) : Form :=
  (f.contract env).fill env (heldImage encode)

variable (env : Environment) (encode : String → String)

theorem isBrace_of_mem_heldImage (text : String) : ∀ c ∈ heldImage encode text, isBrace c = false := by
  intro c hc
  obtain ⟨d, -, rfl⟩ := List.mem_map.mp hc
  exact isBrace_hold d

theorem wellFormed_pass {f : Form} (hf : f.WellFormed) : (f.pass env encode).WellFormed :=
  wellFormed_fill env _ (isBrace_of_mem_heldImage encode) (wellFormed_contract env hf)

theorem depth_pass (f : Form) : (f.pass env encode).depth = f.depth - 1 := by
  rw [pass, depth_fill, depth_contract]

theorem meaning_pass (f : Form) :
    (f.pass env encode).meaning env (heldImage encode) = f.meaning env (heldImage encode) := by
  rw [pass, meaning_fill, meaning_contract]

/-- **One pass over the text is one pass over the tree.** -/
theorem rewrite_source {f : Form} (hf : f.WellFormed) :
    rewrite env encode f.source = (f.pass env encode).source := by
  have hfirst := resolveConditionals_source env hf []
  have hsecond := resolveActions_source env encode (wellFormed_contract env hf) []
  simp only [List.append_nil, resolveConditionals, resolveActions] at hfirst hsecond
  rw [rewrite, hfirst, hsecond]
  rfl

/-- Several passes take as many levels of nesting away and keep what the template stands for. -/
theorem iterate_rewrite_source (n : Nat) {f : Form} (hf : f.WellFormed) :
    ∃ g : Form, (rewrite env encode)^[n] f.source = g.source ∧ g.WellFormed ∧ g.depth = f.depth - n ∧
      g.meaning env (heldImage encode) = f.meaning env (heldImage encode) ∧ (0 < n → g.Filled) := by
  induction n with
  | zero => exact ⟨f, rfl, hf, rfl, rfl, nofun⟩
  | succ n ih =>
      obtain ⟨g, hsource, hg, hdepth, hmeaning, -⟩ := ih
      refine ⟨g.pass env encode, ?_, wellFormed_pass env encode hg, ?_, ?_, fun _ => filled_fill env _ _⟩
      · rw [Function.iterate_succ_apply', hsource, rewrite_source env encode hg]
      · rw [depth_pass, hdepth]
        omega
      · rw [meaning_pass, hmeaning]

/-- A template without actions and if-blocks stands for itself. -/
theorem source_of_settled {f : Form} (hfilled : f.Filled) (hflat : f.depth = 0) (image : String → List Char) :
    f.source = f.meaning env image := by
  induction f with
  | text s => rfl
  | action body => exact hfilled.elim
  | guarded cond first ih => simp [depth] at hflat
  | choice cond first otherwise ih1 ih2 => simp [depth] at hflat
  | joined a b ih1 ih2 =>
      obtain ⟨ha, hb⟩ : a.depth = 0 ∧ b.depth = 0 := by simpa [depth] using hflat
      rw [source, meaning, ih1 hfilled.1 ha, ih2 hfilled.2 hb]

/-- Enough passes come to what the template stands for. -/
theorem settle_source {f : Form} (hf : f.WellFormed) {n : Nat} (hpos : 0 < n) (hdepth : f.depth ≤ n) :
    settle env encode n f.source = f.meaning env (heldImage encode) := by
  obtain ⟨g, hsource, -, hg, hmeaning, hfilled⟩ := iterate_rewrite_source env encode n hf
  rw [settle_eq_iterate, hsource, source_of_settled env (hfilled hpos) (by omega), hmeaning]

/-- A template without double braces is text, and stands for itself. -/
theorem source_of_not_isInfix {f : Form} (h : ¬ ['\x7b', '\x7b'] <:+: f.source) (image : String → List Char) :
    f.source = f.meaning env image := by
  induction f with
  | text s => rfl
  | action body => exact absurd ⟨[], _, rfl⟩ h
  | guarded cond first ih => exact absurd ⟨[], _, by simp [source, ifTag, tag]; rfl⟩ h
  | choice cond first otherwise ih1 ih2 => exact absurd ⟨[], _, by simp [source, ifTag, tag]; rfl⟩ h
  | joined a b ih1 ih2 =>
      have ha : ¬ ['\x7b', '\x7b'] <:+: a.source := fun ha => h (ha.trans (List.prefix_append _ _).isInfix)
      have hb : ¬ ['\x7b', '\x7b'] <:+: b.source := fun hb => h (hb.trans (List.suffix_append _ _).isInfix)
      rw [source, meaning, ih1 ha, ih2 hb]

/-- **Values are released as they are**: what was held for them comes out as what they were. -/
theorem map_release_meaning {f : Form} (htext : f.TextUnheld)
    (hvalues : f.EachAction fun body => ∀ text, action? env body = some text → Unheld (encode text).toList) :
    (f.meaning env (heldImage encode)).map release = f.meaning env fun text => (encode text).toList := by
  induction f with
  | text s => exact map_release_of_unheld htext
  | action body =>
      cases htext : action? env body with
      | none => simp [meaning, htext]
      | some text => simpa [meaning, htext, heldImage] using map_release_map_hold (hvalues text htext)
  | guarded cond first ih =>
      simp only [meaning]
      split
      · exact ih htext hvalues
      · rfl
  | choice cond first otherwise ih1 ih2 =>
      simp only [meaning]
      split
      · exact ih1 htext.1 hvalues.1
      · exact ih2 htext.2 hvalues.2
  | joined a b ih1 ih2 =>
      simp only [meaning, List.map_append, ih1 htext.1 hvalues.1, ih2 htext.2 hvalues.2]

end Form

/-- **A template evaluates to what it stands for.**  Text is copied, an action is replaced by its value, encoded, and
an if-block by the branch that its condition chooses; a value is copied as it is, also where it holds braces, quotes
or whole actions.  Without an encoder the words that actions quote are text of the template too. -/
theorem evaluate_source (env : Environment) (encode : Option (String → String)) {f : Form} (hf : f.WellFormed)
    (hdepth : f.depth ≤ 50) (htext : f.TextUnheld) (hquoted : encode = none → f.EachAction Unheld)
    (hvalues : RendersUnheld env) (hencode : ∀ e, encode = some e → ∀ s, Unheld (e s).toList) :
    evaluate env (String.ofList f.source) (encode.getD id) =
      String.ofList (f.meaning env fun text => (encode.getD id text).toList) := by
  have hactions : f.EachAction fun body =>
      ∀ text, action? env body = some text → Unheld (encode.getD id text).toList := by
    cases encode with
    | none => exact (hquoted rfl).mono fun body hbody text htext => action?_unheld hvalues hbody htext
    | some e => exact .of_forall (fun body text _ => hencode e rfl text) f
  have hmeaning : (settle env (encode.getD id) maxPasses f.source).map release =
      f.meaning env fun text => (encode.getD id text).toList := by
    have hpasses : f.depth ≤ maxPasses := hdepth
    rw [f.settle_source env _ hf (by decide) hpasses, f.map_release_meaning env _ htext hactions]
  unfold evaluate
  split
  · rw [String.toList_ofList, hmeaning]
  · rename_i hbraces
    rw [← f.source_of_not_isInfix env fun hinfix => hbraces ?_]
    simpa [Text.contains] using Text.holds_of_isInfix hinfix

/-- The template of a query, with keywords where there are some. -/
def queryForm : Form :=
  .joined (.text "q=".toList)
    (.choice "or .Keywords .Query".toList (.action ".Keywords".toList)
      (.guarded ".All".toList (.joined (.text "any".toList) (.action "join .All \",\"".toList))))

/-- A query that is itself a template is put out as it was typed. -/
theorem evaluate_source_queryForm :
    evaluate ⟨[("Keywords", .text "\x7b\x7b .Config.apikey \x7d\x7d\x7b\x7b end \x7d\x7d"),
        ("Config.apikey", .text "secret")]⟩ (String.ofList queryForm.source) =
      "q=\x7b\x7b .Config.apikey \x7d\x7d\x7b\x7b end \x7d\x7d" := by
  have hvalues := rendersUnheld_of_texts
    [("Keywords", "\x7b\x7b .Config.apikey \x7d\x7d\x7b\x7b end \x7d\x7d"), ("Config.apikey", "secret")]
    (by unfold Unheld; decide)
  have hcond : ConditionForm (tokens "or .Keywords .Query".toList) :=
    .anyOf [.word ".Keywords", .word ".Query"] (by decide)
  have haction : ActionForm (tokens "join .All \",\"".toList) := .joined (.word ".All") (.literal ",")
  have hform : queryForm.WellFormed := by
    simp only [queryForm, Form.WellFormed]
    exact ⟨by decide, by decide, hcond, ⟨by decide, .named (by decide)⟩,
      by decide, .named (by decide), by decide, by decide, haction⟩
  have htext : queryForm.TextUnheld := by
    simp only [queryForm, Form.TextUnheld, Unheld]
    decide
  have hquoted : queryForm.EachAction Unheld := by
    simp only [queryForm, Form.EachAction, Unheld]
    decide
  exact (evaluate_source _ none hform (by decide) htext (fun _ => hquoted) hvalues
    (fun _ h => absurd h (by simp))).trans (by decide +kernel)

end MetaSearch.Template
