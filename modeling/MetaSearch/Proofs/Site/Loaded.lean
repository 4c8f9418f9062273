import Mathlib.Data.List.Basic
import MetaSearch.Proofs.Datum.Equality
import MetaSearch.Proofs.Site.Breaking
import MetaSearch.Proofs.Web.Logged
import MetaSearch.Service.Basic

/-!
# What loading makes of a directory

Loading takes in the files of definitions one after the other, in the order of their paths.  `Registry.Accounts` is what holds
of a registry and the files that were taken in: each counts once, a definition is found under its identifier if it is the
first of that identifier, and every other file is the source of one failure.  `Registry.Accounts.enrol` is the step and
`Registry.Accounts.foldlM` the run.

A file that breaks the reading of its definition breaks the loading of the whole directory, whatever the other files hold.
`Service.reload_accounts` puts the two together for a service that loads its definitions anew.
-/

namespace MetaSearch

namespace SourceFile

/-- The definition that a file holds. -/
def definition? (file : SourceFile) : Option Definition :=
  (Definition.ofFile file.bytes).toOption

/-- Whether a file holds a definition with an identifier. -/
def defines (id : String) (file : SourceFile) : Bool :=
  file.definition?.any (·.id == id)

/-- A file that breaks the reading of its definition off. -/
def Breaks (file : SourceFile) (f : Fault) : Prop :=
  ∃ text, fileText? file.bytes = some text ∧ Definition.BreaksOff text f

/-- A file that is read or refused. -/
def IsWhole (file : SourceFile) : Prop :=
  ∀ f, ¬ file.Breaks f

theorem breaks_iff {file : SourceFile} {f : Fault} :
    file.Breaks f ↔ Definition.ofFile file.bytes = .error (.fault f) :=
  Definition.ofFile_eq_fault_iff.symm

/-- A file that defines an identifier holds a definition with it. -/
theorem defines_iff {id : String} {file : SourceFile} :
    file.defines id = true ↔ ∃ d, file.definition? = some d ∧ d.id = id := by
  cases h : file.definition? <;> simp [defines, h]

/-- Nothing but the files of definitions is taken in, and each of them as often as it is there. -/
theorem inOrder_perm (files : List SourceFile) : (inOrder files).Perm (files.filter isDefinition) :=
  List.mergeSort_perm _ _

/-- The path of a file comes before that of another, name by name. -/
def Before (a b : SourceFile) : Prop :=
  List.lex a.path b.path (fun s t => decide (s < t)) = true

/-- The files are taken in in the order of their paths. -/
theorem inOrder_pairwise (files : List SourceFile) : (inOrder files).Pairwise fun a b => ¬ Before b a := by
  refine (List.pairwise_mergeSort (fun a b c hab hbc => ?_) (fun a b => ?_) _).imp fun {a b} h => ?_
  · rw [Bool.not_eq_true', List.lex_eq_false_iff_ge] at hab hbc ⊢
    exact List.le_trans hab hbc
  · rw [Bool.or_eq_true, Bool.not_eq_true', Bool.not_eq_true', List.lex_eq_false_iff_ge, List.lex_eq_false_iff_ge]
    exact List.le_total _ _
  · simpa [Before] using h

end SourceFile

namespace Registry

open SourceFile

/-- A file is the first of those that hold a definition with its identifier. -/
def IsFirst (files : List SourceFile) (file : SourceFile) : Prop :=
  ∃ d, file.definition? = some d ∧ files.find? (·.defines d.id) = some file

/-- How often a file is the source of a failure. -/
def failuresOf (r : Registry) (file : SourceFile) : Nat :=
  (r.failures.filter (·.source == file.path)).length

/-- What a registry has to do with the files that were taken in. -/
structure Accounts (r : Registry) (files : List SourceFile) : Prop where
  /-- Each file counts once. -/
  counted : r.definitions.length + r.failures.length = files.length
  /-- Under an identifier stands the definition of the first file that has one with it. -/
  first : ∀ id, r.find? id = (files.find? (·.defines id)).bind definition?
  /-- Failures have files for sources. -/
  sources : ∀ failure ∈ r.failures, failure.source ∈ files.map path
  /-- A file that comes first is the source of no failure. -/
  registered : ∀ file ∈ files, IsFirst files file → r.failuresOf file = 0
  /-- Any other file is the source of exactly one. -/
  refused : ∀ file ∈ files, ¬ IsFirst files file → r.failuresOf file = 1

/-- **What becomes of one file.**  It is refused, also where its definition has an identifier that is there already, or its
definition stands behind the others. -/
theorem enrol_cases {r r' : Registry} {file : SourceFile} (h : r.enrol file = .ok r') :
    (∃ reasons, r' = r.refuse file.path reasons ∧ ∀ d, file.definition? = some d → (r.find? d.id).isSome = true) ∨
    (∃ d, file.definition? = some d ∧ r.find? d.id = none ∧ r' = { r with definitions := r.definitions ++ [d] }) := by
  cases hfile : Definition.ofFile file.bytes with
  | error rejection =>
      have hnone : ∀ d, file.definition? = some d → (r.find? d.id).isSome = true := by
        intro d hd
        simp [definition?, hfile, Except.toOption] at hd
      cases rejection with
      | fault f => simp [enrol, hfile] at h
      | invalid reasons =>
          simp only [enrol, hfile, Except.ok.injEq] at h
          exact .inl ⟨_, h.symm, hnone⟩
      | unreadable message =>
          simp only [enrol, hfile, Except.ok.injEq] at h
          exact .inl ⟨_, h.symm, hnone⟩
  | ok d =>
      have hd : file.definition? = some d := by rw [definition?, hfile]; rfl
      simp only [enrol, hfile] at h
      split at h
      · rename_i hthere
        refine .inl ⟨_, (Except.ok.inj h).symm, fun d' hd' => ?_⟩
        rw [hd] at hd'
        rwa [← Option.some.inj hd']
      · rename_i habsent
        exact .inr ⟨d, hd, by simpa using habsent, (Except.ok.inj h).symm⟩

/-- A file is taken in unless it breaks off. -/
theorem enrol_eq_error_iff {r : Registry} {file : SourceFile} {f : Fault} : r.enrol file = .error f ↔ file.Breaks f := by
  rw [breaks_iff]
  cases hfile : Definition.ofFile file.bytes with
  | error rejection => cases rejection <;> simp [enrol, hfile]
  | ok d =>
      simp only [enrol, hfile, reduceCtorEq, iff_false]
      split <;> simp

/-- Which file is first does not change by files behind it. -/
theorem isFirst_append_iff {done : List SourceFile} {file next : SourceFile} (h : file ∈ done) :
    IsFirst (done ++ [next]) file ↔ IsFirst done file := by
  refine exists_congr fun d => and_congr_right fun hd => ?_
  have hsome : (done.find? (·.defines d.id)).isSome = true := by
    rw [List.find?_isSome]
    exact ⟨file, h, defines_iff.mpr ⟨d, hd, rfl⟩⟩
  rw [List.find?_append, Option.or_of_isSome hsome]

/-- The last file is first where no file in front of it has its identifier. -/
theorem isFirst_last_iff {done : List SourceFile} {file : SourceFile} (hnew : file ∉ done) :
    IsFirst (done ++ [file]) file ↔ ∃ d, file.definition? = some d ∧ done.find? (·.defines d.id) = none := by
  refine exists_congr fun d => and_congr_right fun hd => ?_
  rw [List.find?_append]
  cases hfind : done.find? (·.defines d.id) with
  | some g => simpa using fun heq : g = file => hnew (heq ▸ List.mem_of_find?_eq_some hfind)
  | none => simp [defines_iff.mpr ⟨d, hd, rfl⟩]

/-- A definition is found exactly where a file holds it. -/
theorem Accounts.find?_eq_none_iff {r : Registry} {files : List SourceFile} (h : r.Accounts files) (id : String) :
    r.find? id = none ↔ files.find? (·.defines id) = none := by
  rw [h.first]
  cases hfound : files.find? (·.defines id) with
  | none => simp
  | some file =>
      obtain ⟨d, hd, -⟩ := defines_iff.mp (List.find?_some hfound)
      simp [hd]

/-- A file that was not taken in is the source of no failure. -/
theorem Accounts.failuresOf_eq_zero {r : Registry} {files : List SourceFile} (h : r.Accounts files) {file : SourceFile}
    (hfile : file.path ∉ files.map path) : r.failuresOf file = 0 := by
  rw [failuresOf, List.length_eq_zero_iff, List.filter_eq_nil_iff]
  intro failure hfailure hsource
  rw [beq_iff_eq] at hsource
  exact hfile (hsource ▸ h.sources failure hfailure)

section Behind

variable {r r' : Registry} {done : List SourceFile} {file : SourceFile} {more : List LoadFailure}

/-- Failures of one file count for it alone. -/
theorem failuresOf_append (hfailures : r'.failures = r.failures ++ more)
    (hmore : ∀ failure ∈ more, failure.source = file.path) (g : SourceFile) :
    r'.failuresOf g = r.failuresOf g + if file.path = g.path then more.length else 0 := by
  rw [failuresOf, hfailures, List.filter_append, List.length_append, failuresOf, Nat.add_left_cancel_iff]
  split
  · rename_i hpath
    rw [List.filter_eq_self.mpr fun failure hfailure => beq_iff_eq.mpr ((hmore failure hfailure).trans hpath)]
  · rename_i hpath
    rw [List.filter_eq_nil_iff.mpr fun failure hfailure hsource =>
      hpath ((hmore failure hfailure).symm.trans (beq_iff_eq.mp hsource)), List.length_nil]

/-- **One file behind the others.**  It is accounted for where it adds one definition or one failure, its definition stands
under an identifier that was free, and it fails unless it comes first. -/
theorem Accounts.concat (h : r.Accounts done) (hfile : file.path ∉ done.map path)
    (hfind : ∀ id, r'.find? id = (r.find? id).or (if file.defines id then file.definition? else none))
    (hcounted : r'.definitions.length + more.length = r.definitions.length + 1)
    (hfailures : r'.failures = r.failures ++ more) (hmore : ∀ failure ∈ more, failure.source = file.path)
    (hfirst : IsFirst (done ++ [file]) file → more.length = 0)
    (hlate : ¬ IsFirst (done ++ [file]) file → more.length = 1) :
    r'.Accounts (done ++ [file]) := by
  have hold : ∀ g ∈ done, r'.failuresOf g = r.failuresOf g := by
    intro g hg
    have hne : file.path ≠ g.path := fun heq => hfile (heq ▸ List.mem_map_of_mem hg)
    rw [failuresOf_append hfailures hmore, if_neg hne, Nat.add_zero]
  have hnew : r'.failuresOf file = more.length := by
    rw [failuresOf_append hfailures hmore, if_pos rfl, h.failuresOf_eq_zero hfile, Nat.zero_add]
  refine ⟨?_, fun id => ?_, fun failure hfailure => ?_, fun g hg hg' => ?_, fun g hg hg' => ?_⟩
  · have := h.counted
    rw [hfailures, List.length_append, List.length_append, List.length_singleton]
    omega
  · rw [hfind, List.find?_append, List.find?_singleton]
    cases hearlier : done.find? (·.defines id) with
    | none =>
        rw [(h.find?_eq_none_iff id).mpr hearlier, Option.none_or, Option.none_or]
        cases file.defines id <;> rfl
    | some g =>
        obtain ⟨d, hd, -⟩ := defines_iff.mp (List.find?_some hearlier)
        rw [h.first, hearlier, Option.some_or, Option.bind_some, hd, Option.some_or]
  · rw [hfailures] at hfailure
    rw [List.map_append, List.mem_append]
    rcases List.mem_append.mp hfailure with hfailure | hfailure
    · exact .inl (h.sources failure hfailure)
    · exact .inr (List.mem_singleton.mpr (hmore failure hfailure))
  · rcases List.mem_append.mp hg with hg | hg
    · rw [hold g hg]
      exact h.registered g hg ((isFirst_append_iff hg).mp hg')
    · rw [List.mem_singleton.mp hg] at hg' ⊢
      exact hnew.trans (hfirst hg')
  · rcases List.mem_append.mp hg with hg | hg
    · rw [hold g hg]
      exact h.refused g hg (mt (isFirst_append_iff hg).mpr hg')
    · rw [List.mem_singleton.mp hg] at hg' ⊢
      exact hnew.trans (hlate hg')

/-- A refused file is accounted for by its failure. -/
theorem Accounts.refuse (reasons : List String) (h : r.Accounts done) (hfile : file.path ∉ done.map path)
    (hthere : ∀ d, file.definition? = some d → (r.find? d.id).isSome = true) :
    (r.refuse file.path reasons).Accounts (done ++ [file]) := by
  have hlate : ¬ IsFirst (done ++ [file]) file := by
    rw [isFirst_last_iff fun hmem => hfile (List.mem_map_of_mem hmem)]
    rintro ⟨d, hd, hnone⟩
    have hsome := hthere d hd
    rw [(h.find?_eq_none_iff d.id).mpr hnone] at hsome
    cases hsome
  refine h.concat hfile (fun id => ?_) rfl rfl (by simp) (absurd · hlate) fun _ => rfl
  -- what the file defines stands in the registry already
  split
  · rename_i hdefines
    obtain ⟨d, hd, rfl⟩ := defines_iff.mp hdefines
    exact (Option.or_of_isSome (hthere d hd)).symm
  · exact (Option.or_none).symm

/-- A file with a new identifier is accounted for by its definition. -/
theorem Accounts.register {d : Definition} (h : r.Accounts done) (hfile : file.path ∉ done.map path)
    (hd : file.definition? = some d) (habsent : r.find? d.id = none) :
    Accounts { r with definitions := r.definitions ++ [d] } (done ++ [file]) := by
  have hfirst : IsFirst (done ++ [file]) file :=
    (isFirst_last_iff fun hmem => hfile (List.mem_map_of_mem hmem)).mpr ⟨d, hd, (h.find?_eq_none_iff d.id).mp habsent⟩
  refine h.concat hfile (fun id => ?_) (by simp) (List.append_nil _).symm (by simp) (fun _ => rfl) (absurd hfirst)
  have hdefines : file.defines id = (d.id == id) := by simp [defines, hd]
  rw [find?, List.find?_append, List.find?_singleton, hdefines, hd]
  rfl

end Behind

/-- **One file taken in.** -/
theorem Accounts.enrol {r r' : Registry} {done : List SourceFile} {file : SourceFile} (h : r.Accounts done)
    (hfile : file.path ∉ done.map path) (hstep : r.enrol file = .ok r') : r'.Accounts (done ++ [file]) := by
  rcases enrol_cases hstep with ⟨reasons, rfl, hthere⟩ | ⟨d, hd, habsent, rfl⟩
  · exact h.refuse reasons hfile hthere
  · exact h.register hfile hd habsent

/-- **A run over files.**  What holds of a registry and the files that were taken in holds behind it with the new ones. -/
theorem Accounts.foldlM {files done : List SourceFile} {r r' : Registry} (h : r.Accounts done)
    (hpaths : ((done ++ files).map path).Nodup) (hrun : files.foldlM Registry.enrol r = .ok r') :
    r'.Accounts (done ++ files) := by
  induction files generalizing done r with
  | nil =>
      rw [List.foldlM_nil] at hrun
      rw [List.append_nil, ← Except.ok.inj hrun]
      exact h
  | cons file files ih =>
      rw [List.foldlM_cons] at hrun
      cases hstep : r.enrol file with
      | error f => simp [hstep, bind, Except.bind] at hrun
      | ok next =>
          have hfile : file.path ∉ done.map path := by
            rw [List.map_append, List.map_cons] at hpaths
            exact fun hmem => (List.nodup_append.mp hpaths).2.2 _ hmem _ List.mem_cons_self rfl
          rw [List.append_cons] at hpaths ⊢
          refine ih (h.enrol hfile hstep) hpaths ?_
          rwa [hstep] at hrun

/-- **Where a run over files breaks off.**  The first file that breaks decides, whatever the others hold. -/
theorem foldlM_enrol_eq_error_iff {files : List SourceFile} {r : Registry} {f : Fault} :
    files.foldlM enrol r = .error f ↔
      ∃ before file after, files = before ++ file :: after ∧ (∀ g ∈ before, g.IsWhole) ∧ file.Breaks f := by
  induction files generalizing r with
  | nil => simp [pure, Except.pure]
  | cons file files ih =>
      rw [List.foldlM_cons, exists_behind_cons_iff]
      cases hstep : r.enrol file with
      | error e =>
          have hbreaks : ¬ file.IsWhole := fun hwhole => hwhole e (enrol_eq_error_iff.mp hstep)
          rw [← enrol_eq_error_iff (r := r), hstep, or_iff_left fun hlater => hbreaks hlater.1]
          rfl
      | ok next =>
          have hwhole : file.IsWhole := fun e he => by
            rw [enrol_eq_error_iff.mpr he] at hstep
            cases hstep
          rw [or_iff_right (hwhole f), and_iff_right hwhole]
          exact ih

/-- **Whole files are all loaded.** -/
theorem ofFiles_accounts {files : List SourceFile} (hpaths : (files.map path).Nodup)
    (hwhole : ∀ file ∈ files, file.isDefinition = true → file.IsWhole) :
    ∃ r, ofFiles files = .ok r ∧ r.Accounts (inOrder files) := by
  have hperm := inOrder_perm files
  cases hload : ofFiles files with
  | error f =>
      obtain ⟨before, file, after, heq, -, hbreaks⟩ := foldlM_enrol_eq_error_iff.mp hload
      have hmem : file ∈ files.filter isDefinition := hperm.mem_iff.mp (by simp [heq])
      obtain ⟨hfile, hdefinition⟩ := List.mem_filter.mp hmem
      exact absurd hbreaks (hwhole file hfile hdefinition f)
  | ok r =>
      have hempty : Accounts {} [] := ⟨rfl, fun _ => rfl, by simp, by simp, by simp⟩
      have hnodup : ((inOrder files).map path).Nodup :=
        (hperm.map path).nodup_iff.mpr ((List.filter_sublist.map path).nodup hpaths)
      exact ⟨r, rfl, hempty.foldlM hnodup hload⟩

end Registry

namespace Service

open SourceFile

variable {σ : Type}

/-- **What loading definitions anew does to a service.**  The files of definitions are taken in by their paths.  Where each
of them is read or refused, all that comes of them is swapped in and each file counts once; where one breaks the reading of
its definition, the first such file decides how, nothing is swapped in and nothing is reported. -/
theorem reload_accounts (client : Client σ) (now : Moment) (clock : Int) (fields : Question.Fields) (s : Service σ)
    {files : List SourceFile} (hpaths : (files.map path).Nodup) :
    (inOrder files).Perm (files.filter isDefinition) ∧ ((inOrder files).Pairwise fun a b => ¬ Before b a) ∧
    ((∀ file ∈ files, file.isDefinition = true → file.IsWhole) →
      ∃ r, Registry.ofFiles files = .ok r ∧ r.Accounts (inOrder files) ∧
        r.counts.loaded + r.counts.failed = (files.filter isDefinition).length ∧
        (answer client now clock files fields .reload).run s = (.report r, { s with registry := r })) ∧
    ∀ before file after f, inOrder files = before ++ file :: after → (∀ g ∈ before, g.IsWhole) → file.Breaks f →
      Registry.ofFiles files = .error f ∧ (answer client now clock files fields .reload).run s = (.broken, s) := by
  have hperm := inOrder_perm files
  refine ⟨hperm, inOrder_pairwise files, fun hwhole => ?_, fun before file after f heq hbefore hbreaks => ?_⟩
  · obtain ⟨r, hload, haccounts⟩ := Registry.ofFiles_accounts hpaths hwhole
    refine ⟨r, hload, haccounts, haccounts.counted.trans hperm.length_eq, ?_⟩
    simp only [answer, hload]
    rfl
  · have hload : Registry.ofFiles files = .error f :=
      Registry.foldlM_enrol_eq_error_iff.mpr ⟨before, file, after, heq, hbefore, hbreaks⟩
    refine ⟨hload, ?_⟩
    simp only [answer, hload]
    rfl

/-! ## Two directories -/

/-- A file with a definition. -/
def soundFile : SourceFile where
  path := ["sound.yml"]
  bytes := "id: a
name: A
links: a
search: \x7bpath: s, rows: r, fields: \x7bt: d\x7d\x7d".toUTF8.toList

/-- A file that is no document. -/
def malformedFile : SourceFile where
  path := ["malformed.yml"]
  bytes := "id: [".toUTF8.toList

/-- A file with a table of categories beside mappings that are a number. -/
def brokenFile : SourceFile where
  path := ["broken.yml"]
  bytes := "caps: \x7bcategories: \x7b\x7d, categorymappings: 5\x7d".toUTF8.toList

/-- A service without definitions. -/
def emptyService : Service Unit where
  config := {}
  registry := {}
  store := .memory { lifetime := 0, capacity := 0 }
  network := ()

/-- A malformed file counts as a failure and leaves the other one alone. -/
theorem reload_accounts_malformed : ∃ r, Registry.ofFiles [soundFile, malformedFile] = .ok r ∧
    r.Accounts (inOrder [soundFile, malformedFile]) ∧ r.counts.loaded + r.counts.failed = 2 ∧
    (answer Client.silent dawn 0 [soundFile, malformedFile] [] .reload).run emptyService =
      (.report r, { emptyService with registry := r }) := by
  have hsound : (Definition.ofFile soundFile.bytes).isOk = true := by decide +kernel
  have hmalformed : Definition.ofFile malformedFile.bytes = .error (.invalid ["invalid YAML"]) := by decide +kernel
  have hpaths : ([soundFile, malformedFile].map path).Nodup := by decide
  have hcount : ([soundFile, malformedFile].filter isDefinition).length = 2 := by decide +kernel
  obtain ⟨-, -, hwhole, -⟩ := reload_accounts Client.silent dawn 0 [] emptyService hpaths
  obtain ⟨r, hload, haccounts, hcounts, hanswer⟩ := hwhole fun file hfile _ f hbreaks => by
    rw [breaks_iff] at hbreaks
    rcases List.mem_cons.mp hfile with rfl | hfile
    · rw [hbreaks] at hsound
      cases hsound
    · rw [List.mem_singleton.mp hfile, hmalformed] at hbreaks
      cases hbreaks
  exact ⟨r, hload, haccounts, hcounts.trans hcount, hanswer⟩

/-- A broken file takes the other one down with it. -/
theorem reload_broken : (Definition.ofFile soundFile.bytes).isOk = true ∧
    [brokenFile, soundFile].all isDefinition = true ∧ Registry.ofFiles [brokenFile, soundFile] = .error .wrongKind ∧
    (answer Client.silent dawn 0 [brokenFile, soundFile] [] .reload).run emptyService = (.broken, emptyService) := by
  have hall : [brokenFile, soundFile].filter isDefinition = [brokenFile, soundFile] := by decide +kernel
  have horder : inOrder [brokenFile, soundFile] = [brokenFile, soundFile] := by
    rw [inOrder, hall]
    exact List.mergeSort_of_pairwise (by decide)
  have hbreaks : brokenFile.Breaks .wrongKind := by
    rw [breaks_iff]
    decide +kernel
  have hload : Registry.ofFiles [brokenFile, soundFile] = .error .wrongKind :=
    Registry.foldlM_enrol_eq_error_iff.mpr ⟨[], brokenFile, [soundFile], horder, by simp, hbreaks⟩
  refine ⟨by decide +kernel, by decide +kernel, hload, ?_⟩
  simp only [answer, hload]
  rfl

end Service

end MetaSearch
