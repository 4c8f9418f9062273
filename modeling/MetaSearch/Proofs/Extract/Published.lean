import MetaSearch.Extract.Document
import Mathlib.Data.List.Induction
import Mathlib.Data.List.Nodup

/-!
# What later fields see

Each field of a row is published to the fields after it, as `.Result.` and its name.  Row and environment are written in
four places, and not always both: `readField_cases` says once what a field does to the two of them.

`Published` is what one field after the other keeps (`Published.step`, `Published.of_readFields`).

The main result is `readFields_published`: between any two fields, and at the end, what is published under a name is
what the row holds for it, except where a value of the row is `Hidden` behind a later field of the same name that came
to nothing.  With names that are all different none ever is (`not_hidden_of_nodup`).
-/

namespace MetaSearch

namespace Row

theorem value_eq_lookup (row : Row) (name : String) : row.value name = (List.lookup name row).getD .null := by
  induction row with
  | nil => rfl
  | cons field row ih =>
      obtain ⟨n, v⟩ := field
      by_cases hn : n = name
      · simp [value, hn]
      · have hname : (name == n) = false := by simp [Ne.symm hn]
        simpa [value, hn, List.lookup_cons, hname] using ih

@[simp] theorem value_put_self (row : Row) (name : String) (v : Datum) : (row.put name v).value name = v := by
  rw [value_eq_lookup, put, Fields.lookup_put_self, Option.getD_some]

theorem value_put_of_ne (row : Row) {name other : String} (h : other ≠ name) (v : Datum) :
    (row.put name v).value other = row.value other := by
  rw [value_eq_lookup, value_eq_lookup, put, Fields.lookup_put_of_ne h]

/-- A field that the row does not have is null. -/
theorem value_of_any_eq_false {row : Row} {name : String} (h : row.any (·.1 == name) = false) :
    row.value name = .null := by
  rw [value, List.find?_eq_none.mpr fun field hfield => by simpa using List.any_eq_false.mp h field hfield]
  rfl

end Row

namespace Environment

/-- A field that was published is found under its name. -/
theorem resolve_result {env : Environment} {name : String} {v : Datum} (h : env.get? ("Result." ++ name) = some v) :
    env.resolve (".Result." ++ name) = v := by
  have hbare : bare (".Result." ++ name) = "Result." ++ name := by
    apply String.toList_injective
    simp [bare]
  have hempty : ("Result." ++ name).isEmpty = false := by
    cases hcase : ("Result." ++ name).isEmpty with
    | false => rfl
    | true => simp at hcase
  simp [resolve, lookup?, hbare, hempty, h]

theorem get?_setResult_self (env : Environment) (name : String) (v : Datum) :
    (env.setResult name v).get? ("Result." ++ name) = some v :=
  get?_put_self ..

theorem get?_setResult_of_ne (env : Environment) {name other : String} (h : other ≠ name) (v : Datum) :
    (env.setResult name v).get? ("Result." ++ other) = env.get? ("Result." ++ other) := by
  refine get?_put_of_ne env (fun heq => h ?_) v
  simpa using heq

end Environment

namespace Extract

/-! ## What came of a field -/

/-- A field that was looked for in a row, and the value that was found, if any was. -/
structure Finding where
  rule : FieldRule
  value? : Option Datum

namespace Finding

/-- The name of the field. -/
def name (x : Finding) : String :=
  x.rule.name

/-- Nothing was found, or nothing that an optional field would have. -/
def IsNothing (x : Finding) : Prop :=
  ∀ v, x.value? = some v → x.rule.optional = true ∧ isVoid v = true

/-- What was found leaves the value that is held for the field as it is: nothing, or nothing to put behind it. -/
def Leaves (x : Finding) (held : Datum) : Prop :=
  x.IsNothing ∨ x.rule.append = true ∧ isVoid held = false ∧ ∃ v, x.value? = some v ∧ isVoid v = true

end Finding

variable {extract : FieldRule → Environment → Except Trouble Datum} {rule : FieldRule} {row row' : Row}
  {env env' : Environment}

/-- What came of a field in an environment. -/
def finding (extract : FieldRule → Environment → Except Trouble Datum) (rule : FieldRule) (env : Environment) :
    Finding :=
  ⟨rule, (extract rule env).toOption⟩

/-- When a value that was found is nothing that an optional field would have. -/
theorem finding_isNothing_iff {v : Datum} (h : extract rule env = .ok v) :
    (finding extract rule env).IsNothing ↔ rule.optional = true ∧ isVoid v = true := by
  have hvalue : (finding extract rule env).value? = some v := by simp [finding, h, Except.toOption]
  exact ⟨fun hnothing => hnothing v hvalue, fun hvoid w hw => Option.some.inj (hvalue.symm.trans hw) ▸ hvoid⟩

/-- When a value that was found leaves the one that is held. -/
theorem finding_leaves_iff {v held : Datum} (h : extract rule env = .ok v) :
    (finding extract rule env).Leaves held ↔
      isVoid v = true ∧ (rule.optional = true ∨ rule.append = true ∧ isVoid held = false) := by
  have hvalue : (finding extract rule env).value? = some v := by simp [finding, h, Except.toOption]
  rw [Finding.Leaves, finding_isNothing_iff h]
  constructor
  · rintro (⟨hoptional, hvoid⟩ | ⟨happend, hheld, w, hw, hvoid⟩)
    · exact ⟨hvoid, .inl hoptional⟩
    · exact ⟨Option.some.inj (hw.symm.trans hvalue) ▸ hvoid, .inr ⟨happend, hheld⟩⟩
  · rintro ⟨hvoid, hoptional | ⟨happend, hheld⟩⟩
    · exact .inl ⟨hoptional, hvoid⟩
    · exact .inr ⟨happend, hheld, v, hvalue, hvoid⟩

/-- What came of each field, as long as the row can be read. -/
def findings (extract : FieldRule → Environment → Except Trouble Datum) :
    List FieldRule → Row → Environment → List Finding
  | [], _, _ => []
  | rule :: rules, row, env =>
    finding extract rule env ::
      match readField extract rule row env with
      | .ok (row, env) => findings extract rules row env
      | .error _ => []

/-- **What a field does to the row and to the environment.**  Where nothing came of it, the row holds what it held and
null is published; where there is nothing to put behind the value that is held, all stays as it is; else the value that
the row is given is published. -/
theorem readField_cases (h : readField extract rule row env = .ok (row', env')) :
    ((finding extract rule env).IsNothing ∧ (∀ name, row'.value name = row.value name) ∧
        env' = env.setResult rule.name .null) ∨
      (¬ (finding extract rule env).IsNothing ∧ (finding extract rule env).Leaves (row.value rule.name) ∧
        row.value rule.name ≠ .null ∧ row' = row ∧ env' = env) ∨
      (∃ v, ¬ (finding extract rule env).Leaves v ∧ row' = row.put rule.name v ∧ env' = env.setResult rule.name v) := by
  unfold readField at h
  split at h
  · rename_i why hmiss
    obtain ⟨rfl, rfl⟩ := Prod.mk.inj (Except.ok.inj h)
    refine .inl ⟨fun v hv => by simp [finding, hmiss, Except.toOption] at hv, fun name => ?_, rfl⟩
    split
    · rfl
    · rename_i hnew
      have habsent : row.any (·.1 == rule.name) = false :=
        Bool.eq_false_iff.mpr fun hany => hnew (Bool.or_eq_true_iff.mpr (.inr hany))
      by_cases hname : name = rule.name
      · rw [hname, Row.value_put_self, Row.value_of_any_eq_false habsent]
      · rw [Row.value_put_of_ne row hname]
  · cases h
  · rename_i v hfound
    have hleaves : ∀ held, (finding extract rule env).Leaves held ↔
        isVoid v = true ∧ (rule.optional = true ∨ rule.append = true ∧ isVoid held = false) :=
      fun held => finding_leaves_iff hfound
    dsimp only at h
    split at h
    · rename_i hvoid
      obtain ⟨rfl, rfl⟩ := Prod.mk.inj (Except.ok.inj h)
      exact .inl ⟨(finding_isNothing_iff hfound).mpr (Bool.and_eq_true_iff.mp hvoid), fun _ => rfl, rfl⟩
    · rename_i hsome
      rw [Bool.and_eq_true] at hsome
      split at h
      · rename_i hheld
        rw [Bool.and_eq_true, Bool.not_eq_true'] at hheld
        split at h
        · rename_i hvoid
          obtain ⟨rfl, rfl⟩ := Prod.mk.inj (Except.ok.inj h)
          have hnonnull : row.value rule.name ≠ .null := by
            intro hnull
            rw [hnull] at hheld
            cases hheld.2
          exact .inr (.inl ⟨mt (finding_isNothing_iff hfound).mp hsome, (hleaves _).mpr ⟨hvoid, .inr hheld⟩,
            hnonnull, rfl, rfl⟩)
        · rename_i hmore
          obtain ⟨rfl, rfl⟩ := Prod.mk.inj (Except.ok.inj h)
          exact .inr (.inr ⟨_, fun hleft => hmore ((hleaves _).mp hleft).1, rfl, rfl⟩)
      · obtain ⟨rfl, rfl⟩ := Prod.mk.inj (Except.ok.inj h)
        -- the value that is left would have to be void and not void at once
        have hshown : ¬ (finding extract rule env).Leaves v := by
          rw [hleaves]
          rintro ⟨hvoid, hoptional | ⟨-, hfull⟩⟩
          · exact hsome ⟨hoptional, hvoid⟩
          · rw [hvoid] at hfull
            cases hfull
        exact .inr (.inr ⟨v, hshown, rfl, rfl⟩)

/-- A field whose value is found or missed ends no row. -/
theorem exists_readField (row : Row)
    (h : (∃ v, extract rule env = .ok v) ∨ ∃ why, extract rule env = .error (.setback (.missed why))) :
    ∃ row' env', readField extract rule row env = .ok (row', env') := by
  unfold readField
  rcases h with ⟨v, hv⟩ | ⟨why, hwhy⟩
  · rw [hv]
    dsimp only
    split
    · exact ⟨_, _, rfl⟩
    · split
      · split <;> exact ⟨_, _, rfl⟩
      · exact ⟨_, _, rfl⟩
  · rw [hwhy]
    exact ⟨_, _, rfl⟩

/-! ## Field after field -/

theorem readFields_append (done rest : List FieldRule) :
    readFields extract (done ++ rest) row env =
      readFields extract done row env >>= fun (row, env) => readFields extract rest row env := by
  induction done generalizing row env with
  | nil => rfl
  | cons rule done ih =>
      rw [List.cons_append, readFields, readFields]
      cases readField extract rule row env with
      | error e => rfl
      | ok read =>
          obtain ⟨row, env⟩ := read
          exact ih

/-- What came of the fields up to one more. -/
theorem findings_concat {done : List FieldRule} (h : readFields extract done row env = .ok (row', env')) :
    findings extract (done ++ [rule]) row env = findings extract done row env ++ [finding extract rule env'] := by
  induction done generalizing row env with
  | nil =>
      obtain ⟨rfl, rfl⟩ := Prod.mk.inj (Except.ok.inj h)
      rw [List.nil_append, findings, findings, List.nil_append]
      cases readField extract rule row env <;> rfl
  | cons first done ih =>
      rw [readFields] at h
      rw [List.cons_append, findings, findings]
      cases hread : readField extract first row env with
      | error e => simp [hread] at h; cases h
      | ok read =>
          obtain ⟨between, env''⟩ := read
          rw [hread] at h
          exact congrArg _ (ih h)

/-- The row holds a value that later fields do not see: a field of that name behind it came to nothing, and none after
that one has given the row another value. -/
def Hidden (row : Row) (found : List Finding) (name : String) : Prop :=
  row.value name ≠ .null ∧ ∃ before x after, found = before ++ x :: after ∧ x.name = name ∧ x.IsNothing ∧
    ∀ y ∈ after, y.name = name → y.Leaves (row.value name)

namespace Hidden

variable {found : List Finding} {name : String} {x : Finding}

/-- A field that was looked for is the last one, or stands before it. -/
theorem last_or_before {before after : List Finding} {z : Finding} (h : found ++ [x] = before ++ z :: after) :
    after = [] ∧ x = z ∨ ∃ init, after = init ++ [x] ∧ found = before ++ z :: init := by
  rcases List.eq_nil_or_concat after with rfl | ⟨init, last, rfl⟩
  · obtain ⟨-, hlast⟩ := List.append_inj' h rfl
    exact .inl ⟨rfl, List.singleton_inj.mp hlast⟩
  · rw [List.concat_eq_append, ← List.cons_append, ← List.append_assoc] at h
    obtain ⟨hinit, hlast⟩ := List.append_inj' h rfl
    exact .inr ⟨init, by rw [List.concat_eq_append, hlast], hinit⟩

/-- A field that came to nothing hides the value that is held. -/
theorem of_isNothing (hname : x.name = name) (hx : x.IsNothing) (hheld : row.value name ≠ .null) :
    Hidden row (found ++ [x]) name :=
  ⟨hheld, found, x, [], rfl, hname, hx, by simp⟩

/-- A field of another name, or one with nothing to put behind the value, neither hides it nor shows it. -/
theorem concat_iff (hnothing : x.name = name → ¬ x.IsNothing)
    (hleaves : x.name = name → x.Leaves (row'.value name)) (hheld : row'.value name = row.value name) :
    Hidden row' (found ++ [x]) name ↔ Hidden row found name := by
  unfold Hidden
  rw [hheld] at hleaves ⊢
  refine and_congr_right fun _ => ⟨?_, ?_⟩
  · rintro ⟨before, z, after, hfound, hname, hz, hafter⟩
    rcases last_or_before hfound with ⟨rfl, rfl⟩ | ⟨init, rfl, hinit⟩
    · exact absurd hz (hnothing hname)
    · exact ⟨before, z, init, hinit, hname, hz, fun y hy => hafter y (List.mem_append_left [x] hy)⟩
  · rintro ⟨before, z, after, rfl, hname, hz, hafter⟩
    refine ⟨before, z, after ++ [x], by simp, hname, hz, fun y hy => ?_⟩
    rcases List.mem_append.mp hy with hy | hy
    · exact hafter y hy
    · rw [List.mem_singleton.mp hy]
      exact hleaves

/-- A field that gives the row a value shows it. -/
theorem not_concat (hname : x.name = name) (hx : ¬ x.Leaves (row.value name)) :
    ¬ Hidden row (found ++ [x]) name := by
  rintro ⟨-, before, z, after, hfound, -, hz, hafter⟩
  rcases last_or_before hfound with ⟨rfl, rfl⟩ | ⟨init, rfl, -⟩
  · exact hx (.inl hz)
  · exact hx (hafter x (by simp) hname)

end Hidden

/-- Where the row is read to its end, all fields are looked for. -/
theorem map_name_findings {rules : List FieldRule} (h : readFields extract rules row env = .ok (row', env')) :
    (findings extract rules row env).map Finding.name = rules.map FieldRule.name := by
  induction rules generalizing row env with
  | nil => rfl
  | cons rule rules ih =>
      obtain ⟨⟨between, benv⟩, hrule, hrest⟩ := exists_of_bind_eq_ok h
      rw [findings, hrule, List.map_cons, ih hrest, List.map_cons]
      rfl

/-- What is published of the fields that were looked for, and what the row holds of all others. -/
structure Published (row : Row) (env : Environment) (found : List Finding) : Prop where
  absent : ∀ name ∉ found.map Finding.name, row.value name = .null
  seen : ∀ name ∈ found.map Finding.name,
    (¬ Hidden row found name → env.get? ("Result." ++ name) = some (row.value name)) ∧
      (Hidden row found name → env.get? ("Result." ++ name) = some .null)

namespace Published

variable {found : List Finding}

/-- Nothing changes for the names of other fields. -/
theorem seen_of_ne (h : Published row env found) {name : String} (hname : name ∈ found.map Finding.name)
    (hne : name ≠ rule.name) (hkept : row'.value name = row.value name) (v : Datum) :
    (¬ Hidden row' (found ++ [finding extract rule env]) name →
        (env.setResult rule.name v).get? ("Result." ++ name) = some (row'.value name)) ∧
      (Hidden row' (found ++ [finding extract rule env]) name →
        (env.setResult rule.name v).get? ("Result." ++ name) = some .null) := by
  have hother : (finding extract rule env).name ≠ name := fun heq => hne heq.symm
  rw [Hidden.concat_iff (absurd · hother) (absurd · hother) hkept, hkept, Environment.get?_setResult_of_ne env hne]
  exact h.seen name hname

/-- **One field more.** -/
theorem step (h : Published row env found) (hread : readField extract rule row env = .ok (row', env')) :
    Published row' env' (found ++ [finding extract rule env]) := by
  have hnames : ∀ name, name ∈ (found ++ [finding extract rule env]).map Finding.name ↔
      name ∈ found.map Finding.name ∨ name = rule.name := by
    simp [finding, Finding.name]
  have hown : (finding extract rule env).name = rule.name := rfl
  rcases readField_cases hread with
      ⟨hnothing, hkept, rfl⟩ | ⟨hsome, hleaves, hheld, rfl, rfl⟩ | ⟨v, hshown, rfl, rfl⟩ <;>
    refine ⟨fun name hname => ?_, fun name hname => ?_⟩ <;> rw [hnames] at hname
  case inl.refine_1 => rw [hkept, h.absent name (not_or.mp hname).1]
  case inl.refine_2 =>
    by_cases hsame : name = rule.name
    · subst hsame
      have hnull := env.get?_setResult_self rule.name .null
      refine ⟨fun hshown => ?_, fun _ => hnull⟩
      rw [hnull, of_not_not fun hne => hshown (.of_isNothing hown hnothing hne)]
    · exact h.seen_of_ne (hname.resolve_right hsame) hsame (hkept name) .null
  case inr.inl.refine_1 => exact h.absent name (not_or.mp hname).1
  case inr.inl.refine_2 =>
    -- what the row holds was found before, under the same name
    have hbefore : name ∈ found.map Finding.name := by
      by_contra hnew
      rcases hname with hname | rfl
      · exact hnew hname
      · exact hheld (h.absent _ hnew)
    rw [Hidden.concat_iff (fun _ => hsome) (fun heq => by rwa [← heq, hown]) rfl]
    exact h.seen name hbefore
  case inr.inr.refine_1 =>
    obtain ⟨hold, hnew⟩ := not_or.mp hname
    rw [Row.value_put_of_ne row hnew, h.absent name hold]
  case inr.inr.refine_2 =>
    by_cases hsame : name = rule.name
    · subst hsame
      have hvalue := env.get?_setResult_self rule.name v
      have hnot : ¬ Hidden (row.put rule.name v) (found ++ [finding extract rule env]) rule.name :=
        Hidden.not_concat hown (by rwa [Row.value_put_self])
      exact ⟨fun _ => by rw [hvalue, Row.value_put_self], fun hhidden => absurd hhidden hnot⟩
    · exact h.seen_of_ne (hname.resolve_right hsame) hsame (row.value_put_of_ne hsame v) v

/-- **Field after field.** -/
theorem of_readFields {done : List FieldRule} (h : readFields extract done [] env = .ok (row, env')) :
    Published row env' (findings extract done [] env) := by
  induction done using List.reverseRecOn generalizing row env' with
  | nil =>
      obtain ⟨rfl, -⟩ := Prod.mk.inj (Except.ok.inj h)
      exact ⟨fun _ _ => rfl, by simp [findings]⟩
  | append_singleton done rule ih =>
      rw [readFields_append] at h
      obtain ⟨⟨between, benv⟩, hdone, hlast⟩ := exists_of_bind_eq_ok h
      obtain ⟨⟨_, _⟩, hrule, hend⟩ := exists_of_bind_eq_ok hlast
      obtain ⟨rfl, rfl⟩ := Prod.mk.inj (Except.ok.inj hend)
      rw [findings_concat hdone]
      exact (ih hdone).step hrule

end Published

/-- A value that the row came to hold was found. -/
theorem exists_finding_of_value_ne {rules : List FieldRule} {name : String}
    (h : readFields extract rules row env = .ok (row', env')) (hvalue : row'.value name ≠ row.value name) :
    ∃ x ∈ findings extract rules row env, x.name = name ∧ ¬ x.IsNothing := by
  induction rules generalizing row env with
  | nil =>
      obtain ⟨rfl, -⟩ := Prod.mk.inj (Except.ok.inj h)
      exact absurd rfl hvalue
  | cons rule rules ih =>
      obtain ⟨⟨between, benv⟩, hrule, hrest⟩ := exists_of_bind_eq_ok h
      rw [findings, hrule]
      by_cases hkept : between.value name = row.value name
      · obtain ⟨x, hx, hfound⟩ := ih hrest (by rwa [hkept])
        exact ⟨x, List.mem_cons_of_mem _ hx, hfound⟩
      · refine ⟨finding extract rule env, List.mem_cons_self, ?_⟩
        rcases readField_cases hrule with ⟨-, hsame, -⟩ | ⟨-, -, -, rfl, -⟩ | ⟨v, hshown, rfl, -⟩
        · exact absurd (hsame name) hkept
        · exact absurd rfl hkept
        · refine ⟨?_, fun hnothing => hshown (.inl hnothing)⟩
          by_contra hother
          exact hkept (Row.value_put_of_ne row (Ne.symm hother) v)

/-- No value is hidden where no two fields have one name. -/
theorem not_hidden_of_nodup {rules : List FieldRule} (hnames : (rules.map FieldRule.name).Nodup)
    (h : readFields extract rules [] env = .ok (row, env')) (name : String) :
    ¬ Hidden row (findings extract rules [] env) name := by
  rintro ⟨hheld, before, x, after, hsplit, hname, hnothing, -⟩
  obtain ⟨y, hy, hsame, hsome⟩ := exists_finding_of_value_ne h hheld
  have hnodup : ((findings extract rules [] env).map Finding.name).Nodup := by
    rwa [map_name_findings h]
  have hx : x ∈ findings extract rules [] env := by simp [hsplit]
  obtain rfl := List.inj_on_of_nodup_map hnodup hx hy (hname.trans hsame.symm)
  exact hsome hnothing

/-- Fields that are all found or missed are all read. -/
theorem exists_readFields {rules : List FieldRule} (row : Row) (env : Environment)
    (h : ∀ rule ∈ rules, ∀ env, (∃ v, extract rule env = .ok v) ∨
      ∃ why, extract rule env = .error (.setback (.missed why))) :
    ∃ row' env', readFields extract rules row env = .ok (row', env') := by
  induction rules generalizing row env with
  | nil => exact ⟨row, env, rfl⟩
  | cons rule rules ih =>
      obtain ⟨hrule, hrules⟩ := List.forall_mem_cons.mp h
      obtain ⟨between, benv, hread⟩ := exists_readField row (hrule env)
      obtain ⟨row', env', hrest⟩ := ih between benv hrules
      refine ⟨row', env', ?_⟩
      rw [readFields, hread]
      exact hrest

/-- **What later fields see is what the row holds**, unless it is hidden.  Let each field be found or missed.  Then the
row is read to its end, and at every place between its fields, and at its end, what is published of a field that was
read is the value that the row holds exactly where no such field came to nothing behind it, and null exactly where the
row holds none or null, or what it holds is hidden. -/
theorem readFields_published {done rest : List FieldRule} (env : Environment)
    (hfound : ∀ rule ∈ done ++ rest, ∀ env, (∃ v, extract rule env = .ok v) ∨
      ∃ why, extract rule env = .error (.setback (.missed why))) :
    ∃ row env', readFields extract done [] env = .ok (row, env') ∧
      readFields extract (done ++ rest) [] env = readFields extract rest row env' ∧
      ∀ name ∈ done.map FieldRule.name,
        (env'.resolve (".Result." ++ name) = row.value name ↔ ¬ Hidden row (findings extract done [] env) name) ∧
        (env'.resolve (".Result." ++ name) = .null ↔
          row.value name = .null ∨ Hidden row (findings extract done [] env) name) := by
  obtain ⟨row, env', hread⟩ := exists_readFields [] env fun rule hrule => hfound rule (List.mem_append_left rest hrule)
  refine ⟨row, env', hread, by rw [readFields_append, hread]; rfl, fun name hname => ?_⟩
  have hmem : name ∈ (findings extract done [] env).map Finding.name := by
    rwa [map_name_findings hread]
  obtain ⟨hshown, hhidden⟩ := (Published.of_readFields hread).seen name hmem
  by_cases h : Hidden row (findings extract done [] env) name
  · have hnull := Environment.resolve_result (hhidden h)
    simp [hnull, h, Ne.symm h.1]
  · have hvalue := Environment.resolve_result (hshown h)
    simp [hvalue, h]

/-- A title behind which another piece is put, and a field that shows the title. -/
theorem readFields_published_longer :
    let extract := fun (rule : FieldRule) (env : Environment) => match rule.selector with
      | some found => (.ok (.text found) : Except Trouble Datum)
      | none => .ok (env.resolve ".Result.title")
    let done := [{ name := "title", selector := some "Sintel" },
      { name := "title", selector := some " 1080p", append := true }]
    let rest := [{ name := "label" }]
    ∃ row env', readFields extract done [] {} = .ok (row, env') ∧
      (readFields extract (done ++ rest) [] {}).map (fun read => read.1.value "label") = .ok (.text "Sintel 1080p") ∧
      env'.resolve ".Result.title" = row.value "title" := by
  intro extract done rest
  have hfound : ∀ rule ∈ done ++ rest, ∀ env, (∃ v, extract rule env = .ok v) ∨
      ∃ why, extract rule env = .error (.setback (.missed why)) := by
    intro rule _ env
    refine .inl ?_
    dsimp only [extract]
    split <;> exact ⟨_, rfl⟩
  obtain ⟨row, env', hread, -, hpublished⟩ := readFields_published {} hfound
  refine ⟨row, env', hread, by rfl, (hpublished "title" (by simp [done])).1.mpr ?_⟩
  rintro ⟨-, before, x, after, hsplit, -, hnothing, -⟩
  have hall : ∀ y ∈ findings extract done [] {}, ∃ v, y.value? = some v ∧ y.rule.optional = false := by
    have hfindings : findings extract done [] {} =
        [⟨{ name := "title", selector := some "Sintel" }, some (.text "Sintel")⟩,
          ⟨{ name := "title", selector := some " 1080p", append := true }, some (.text " 1080p")⟩] := by rfl
    simp [hfindings]
  obtain ⟨v, hv, hneeded⟩ := hall x (by rw [hsplit]; simp)
  rw [(hnothing v hv).1] at hneeded
  cases hneeded

/-- An optional piece that is not there hides the title that the row holds. -/
theorem title_hidden :
    ∃ row env', readFields (documentField ⟨0, 0, by decide⟩ "" (.object [("t", .text "Sintel")]))
        [{ name := "title", selector := some "t" },
          { name := "title", selector := some "x", optional := true, append := true }] [] {} = .ok (row, env') ∧
      row.value "title" = .text "Sintel" ∧ env'.resolve ".Result.title" = .null ∧
      env'.resolve ".Result.title" ≠ row.value "title" := by
  have hrow : Row.value [("title", .text "Sintel")] "title" = .text "Sintel" := by rfl
  have hseen : Environment.resolve ⟨[("Result.title", .null)]⟩ ".Result.title" = .null := by rfl
  refine ⟨[("title", .text "Sintel")], ⟨[("Result.title", .null)]⟩, by rfl, hrow, hseen, ?_⟩
  rw [hrow, hseen]
  exact Datum.noConfusion

end Extract

end MetaSearch
