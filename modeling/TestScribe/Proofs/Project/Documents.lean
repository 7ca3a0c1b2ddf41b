import TestScribe.Project.Document
import TestScribe.Proofs.Phases

/-!
Which documents are projects. Recorded fields are looked at as little as possible, so what a field
may hold is told by what is done with it: a field that is walked through may be a list, a text or an
object, one that is counted may be a text that denotes an integer, and one that does not hold counts
as absent. `documents_accepted` collects this for all fields of a document, and says which tests,
suites and commands the project has.
-/

namespace TestScribe

open Value (field?)

namespace Value

/-- Values that can be walked through. -/
def HasItems : Value → Prop
  | list _ | text _ | object _ => True
  | _ => False

/-- Values that stand for an integer: those that are numbers and finite, and numerals. -/
def IsCount : Value → Prop
  | bool _ | int _ | float (.finite _ _ _) => True
  | text t => ∃ n, Numeral.integer t = .ok n
  | _ => False

def IsObject (property : List (Text × Value) → Prop) (v : Value) : Prop :=
  ∃ fields, v = .object fields ∧ property fields

end Value

/-- Whether a field, if it is there and holds, has a property. -/
def IfHolds (property : Value → Prop) (fields : List (Text × Value)) (key : Text) : Prop :=
  ∀ v, field? fields key = some v → v.holds = true → property v

/-- The elements of a field that is a list; any other field has none. -/
def listed (fields : List (Text × Value)) (key : Text) : List Value :=
  match field? fields key with
  | some (.list vs) => vs
  | _ => []

def IsNamed (fields : List (Text × Value)) : Prop :=
  ∃ t, field? fields "name" = some (.text t) ∧ ∃ c ∈ t, Text.isBlank c = false

/-- What the fields of a recorded command have to be. -/
structure CommandFields (fields : List (Text × Value)) : Prop where
  targets : IfHolds Value.HasItems fields "targets"

structure TestFields (fields : List (Text × Value)) : Prop where
  named : IsNamed fields
  commands : IfHolds (fun v => ∃ vs, v = .list vs ∧ ∀ c ∈ vs, c.IsObject CommandFields) fields
    "commands"

structure SuiteFields (fields : List (Text × Value)) : Prop where
  named : IsNamed fields
  tests : IfHolds Value.HasItems fields "tests"
  timeout : IfHolds Value.IsCount fields "timeout"

structure ProjectFields (fields : List (Text × Value)) : Prop where
  lists : ∀ key ∈ (["tests", "suites", "plugins"] : List Text), ∀ v, field? fields key = some v →
    ∃ vs, v = .list vs
  urls : IfHolds Value.HasItems fields "urls"
  tests : ∀ v ∈ listed fields "tests", v.IsObject TestFields
  suites : ∀ v ∈ listed fields "suites", v.IsObject SuiteFields

structure Command.Records (c : Command) (fields : List (Text × Value)) : Prop where
  name : c.name = recorded fields "command"
  target : c.target = recorded fields "target"
  value : c.value = recorded fields "value"
  id : c.id = recorded fields "id"
  comment : c.comment = recorded fields "comment"

/-- Whether a test is the recorded one: it has the name, and a command for each recorded one. -/
structure TestCase.Records (t : TestCase) (fields : List (Text × Value)) : Prop where
  name : field? fields "name" = some (.text t.name)
  commands : List.Forall₂ (fun v c => v.IsObject c.Records) (listed fields "commands") t.commands

structure Suite.Records (s : Suite) (fields : List (Text × Value)) : Prop where
  name : field? fields "name" = some (.text s.name)

/-- Whether a project is the recorded one: it has the tests and the suites of the document. -/
structure Project.Records (p : Project) (fields : List (Text × Value)) : Prop where
  tests : List.Forall₂ (fun v t => v.IsObject t.Records) (listed fields "tests") p.tests
  suites : List.Forall₂ (fun v s => v.IsObject s.Records) (listed fields "suites") p.suites

variable {fields : List (Text × Value)} {key what t : Text} {v : Value} {vs : List Value}
  {f : Fault} {property : List (Text × Value) → Prop}

@[simp] theorem Value.isObject_object :
    (Value.object fields).IsObject property ↔ property fields := by
  simp [IsObject]

theorem Value.fields_eq_ok : v.fields = .ok fields ↔ v = .object fields := by
  cases v <;> simp [Value.fields]

theorem Value.items_eq_error : v.items = .error f ↔ ¬ v.HasItems ∧ f = .notIterable v.kind := by
  cases v <;> simp [Value.items, HasItems, eq_comm]

theorem Value.exists_items : (∃ vs, v.items = .ok vs) ↔ v.HasItems := by
  cases v <;> simp [Value.items, HasItems]

theorem Value.exists_integer : (∃ n, v.integer = .ok n) ↔ v.IsCount := by
  cases v with
  | float x => cases x <;> simp [Value.integer, IsCount]
  | text t =>
    rw [Value.integer, IsCount]
    cases Numeral.integer t with
    | ok n => simp
    | error e => cases e <;> simp
  | _ => simp [Value.integer, IsCount]

/-! Walking through a field. -/

theorem recordedItems_of_holds (h : field? fields key = some v) (hv : v.holds = true) :
    recordedItems fields key = v.items := by
  rw [recordedItems, h, Option.getD_some, Value.orElse_of_holds hv]

theorem recordedItems_of_not_holds (h : ∀ v, field? fields key = some v → v.holds = false) :
    recordedItems fields key = .ok [] := by
  have hv : ((field? fields key).getD .null).holds = false := by
    cases hf : field? fields key with
    | none => rfl
    | some v => exact h v hf
  rw [recordedItems, Value.orElse_of_not_holds hv]
  rfl

theorem holds_or_not (fields : List (Text × Value)) (key : Text) :
    (∃ v, field? fields key = some v ∧ v.holds = true) ∨
      ∀ v, field? fields key = some v → v.holds = false := by
  by_cases h : ∃ v, field? fields key = some v ∧ v.holds = true
  · exact .inl h
  · exact .inr fun v hv => Bool.eq_false_iff.2 fun hh => h ⟨v, hv, hh⟩

theorem ifHolds_iff {q : Value → Prop} {other : Value} (hother : q other) :
    q (((field? fields key).getD .null).orElse other) ↔ IfHolds q fields key := by
  obtain ⟨v, hv, hholds⟩ | hnot := holds_or_not fields key
  · rw [hv, Option.getD_some, Value.orElse_of_holds hholds]
    constructor
    · intro h w hw _
      rw [hv] at hw
      cases hw
      exact h
    · intro h
      exact h v hv hholds
  · have hnull : ((field? fields key).getD .null).holds = false := by
      cases hf : field? fields key with
      | none => rfl
      | some v => exact hnot v hf
    rw [Value.orElse_of_not_holds hnull]
    constructor
    · intro _ w hw hholds
      rw [hnot w hw] at hholds
      cases hholds
    · intro _
      exact hother

theorem exists_recordedItems :
    (∃ vs, recordedItems fields key = .ok vs) ↔ IfHolds Value.HasItems fields key := by
  simp only [recordedItems, Value.exists_items]
  exact ifHolds_iff trivial

theorem exists_timeout :
    (∃ n, (((field? fields "timeout").getD .null).orElse (.int 300)).integer = .ok n) ↔
      IfHolds Value.IsCount fields "timeout" := by
  rw [Value.exists_integer]
  exact ifHolds_iff trivial

theorem recordedItems_of_list (h : ∀ v, field? fields key = some v → ∃ vs, v = .list vs) :
    recordedItems fields key = .ok (listed fields key) := by
  unfold listed
  cases hf : field? fields key with
  | none => exact recordedItems_of_not_holds fun v hv => by rw [hf] at hv; cases hv
  | some v =>
    obtain ⟨vs, rfl⟩ := h v hf
    cases vs with
    | nil =>
      refine recordedItems_of_not_holds fun w hw => ?_
      rw [hf] at hw
      cases hw
      rfl
    | cons c cs => exact recordedItems_of_holds hf rfl

/-- What is walked through and gives objects only is a list, unless it does not hold: the characters
of a text and the keys of an object are texts. -/
theorem eq_list_of_items (h : v.items = .ok vs) (hv : v.holds = true)
    (hall : ∀ c ∈ vs, c.IsObject property) : v = .list vs := by
  have htexts : ∀ ts : List Text, ts ≠ [] → vs ≠ ts.map .text := by
    rintro ts hts rfl
    obtain ⟨t, ht⟩ := List.exists_mem_of_ne_nil ts hts
    obtain ⟨fs, hfs, -⟩ := hall _ (List.mem_map_of_mem ht)
    cases hfs
  cases v with
  | list ws =>
    cases h
    rfl
  | text t =>
    cases h
    have hne : t.map (fun c => [c]) ≠ [] := by simpa [Value.holds] using hv
    exact absurd (by rw [List.map_map]; rfl) (htexts (t.map fun c => [c]) hne)
  | object fs =>
    cases h
    have hne : fs.map Prod.fst ≠ [] := by simpa [Value.holds] using hv
    exact absurd (by rw [List.map_map]; rfl) (htexts (fs.map Prod.fst) hne)
  | _ => cases h

theorem recordedItems_objects :
    (recordedItems fields key = .ok vs ∧ ∀ c ∈ vs, c.IsObject property) ↔
      IfHolds (fun v => ∃ vs, v = .list vs ∧ ∀ c ∈ vs, c.IsObject property) fields key ∧
        vs = listed fields key := by
  obtain ⟨v, hv, hholds⟩ | hnot := holds_or_not fields key
  · rw [recordedItems_of_holds hv hholds, listed, hv]
    constructor
    · rintro ⟨hitems, hall⟩
      obtain rfl := eq_list_of_items hitems hholds hall
      refine ⟨fun w hw _ => ?_, rfl⟩
      rw [hv] at hw
      cases hw
      exact ⟨vs, rfl, hall⟩
    · rintro ⟨h, hvs⟩
      obtain ⟨ws, rfl, hall⟩ := h v hv hholds
      obtain rfl : vs = ws := hvs
      exact ⟨rfl, hall⟩
  · rw [recordedItems_of_not_holds hnot]
    have hlisted : listed fields key = [] := by
      unfold listed
      split
      · rename_i ws hws
        simpa [Value.holds] using hnot _ hws
      · rfl
    rw [hlisted]
    constructor
    · rintro ⟨h, -⟩
      cases h
      refine ⟨fun w hw hholds => ?_, rfl⟩
      rw [hnot w hw] at hholds
      cases hholds
    · rintro ⟨-, rfl⟩
      exact ⟨rfl, by simp⟩

/-! The parts of a document. -/

theorem requiredName_eq_ok : requiredName what fields = .ok t ↔
    field? fields "name" = some (.text t) ∧ ∃ c ∈ t, Text.isBlank c = false := by
  have hblank : ∀ s : Text, (Text.trim s).isEmpty = true ↔ ¬ ∃ c ∈ s, Text.isBlank c = false := by
    intro s
    rw [List.isEmpty_iff, Text.trim_eq_nil_iff, Text.allBlank]
    simp
  unfold requiredName
  cases hf : field? fields "name" with
  | none => simp
  | some w =>
    cases w with
    | text s =>
      by_cases hs : (Text.trim s).isEmpty = true
      · have := (hblank s).1 hs
        simp only [hs, ↓reduceIte, reduceCtorEq, Option.some.injEq, Value.text.injEq, false_iff]
        rintro ⟨rfl, h⟩
        exact this h
      · have := not_not.1 (mt (hblank s).2 hs)
        simp only [hs, ↓reduceIte, Bool.false_eq_true, Except.ok.injEq, Option.some.injEq,
          Value.text.injEq, iff_self_and]
        rintro rfl
        exact this
    | _ => simp

theorem exists_requiredName (what : Text) (fields : List (Text × Value)) :
    (∃ t, requiredName what fields = .ok t) ↔ IsNamed fields := by
  simp only [requiredName_eq_ok, IsNamed]

theorem Command.ofValue_eq_ok {c : Command} (h : Command.ofValue v = .ok c) :
    v.IsObject c.Records := by
  simp only [Command.ofValue, Except.bind_eq_ok, Value.fields_eq_ok] at h
  obtain ⟨fields, rfl, targets, -, h⟩ := h
  cases h
  exact ⟨fields, rfl, rfl, rfl, rfl, rfl, rfl⟩

theorem Command.exists_ofValue : (∃ c, Command.ofValue v = .ok c) ↔ v.IsObject CommandFields := by
  simp only [Command.ofValue, Except.bind_eq_ok, Value.fields_eq_ok]
  constructor
  · rintro ⟨c, fields, rfl, targets, htargets, -⟩
    exact ⟨fields, rfl, ⟨exists_recordedItems.1 ⟨targets, htargets⟩⟩⟩
  · rintro ⟨fields, rfl, hfields⟩
    obtain ⟨targets, htargets⟩ := exists_recordedItems.2 hfields.targets
    exact ⟨_, fields, rfl, targets, htargets, rfl⟩

theorem TestCase.ofValue_eq_ok {c : TestCase} (h : TestCase.ofValue v = .ok c) :
    v.IsObject c.Records := by
  simp only [TestCase.ofValue, Except.bind_eq_ok, Value.fields_eq_ok] at h
  obtain ⟨fields, rfl, name, hname, items, hitems, commands, hcommands, h⟩ := h
  cases h
  have hall : ∀ w ∈ items, w.IsObject CommandFields := fun w hw =>
    Command.exists_ofValue.1 (Except.exists_mapM_eq_ok.1 ⟨commands, hcommands⟩ w hw)
  obtain ⟨-, rfl⟩ := recordedItems_objects.1 ⟨hitems, hall⟩
  exact ⟨fields, rfl, (requiredName_eq_ok.1 hname).1,
    (Except.mapM_eq_ok.1 hcommands).imp fun _ _ => Command.ofValue_eq_ok⟩

theorem TestCase.exists_ofValue : (∃ c, TestCase.ofValue v = .ok c) ↔ v.IsObject TestFields := by
  simp only [TestCase.ofValue, Except.bind_eq_ok, Value.fields_eq_ok]
  constructor
  · rintro ⟨c, fields, rfl, name, hname, items, hitems, commands, hcommands, -⟩
    have hall : ∀ w ∈ items, w.IsObject CommandFields := fun w hw =>
      Command.exists_ofValue.1 (Except.exists_mapM_eq_ok.1 ⟨commands, hcommands⟩ w hw)
    exact ⟨fields, rfl, (exists_requiredName _ fields).1 ⟨name, hname⟩,
      (recordedItems_objects.1 ⟨hitems, hall⟩).1⟩
  · rintro ⟨fields, rfl, hfields⟩
    obtain ⟨name, hname⟩ := (exists_requiredName "Test" fields).2 hfields.named
    obtain ⟨hitems, hall⟩ := recordedItems_objects.2 ⟨hfields.commands, rfl⟩
    obtain ⟨commands, hcommands⟩ := Except.exists_mapM_eq_ok.2 fun w hw =>
      Command.exists_ofValue.2 (hall w hw)
    exact ⟨_, fields, rfl, name, hname, _, hitems, commands, hcommands, rfl⟩

theorem Suite.ofValue_eq_ok {s : Suite} (h : Suite.ofValue v = .ok s) : v.IsObject s.Records := by
  simp only [Suite.ofValue, Except.bind_eq_ok, Value.fields_eq_ok] at h
  obtain ⟨fields, rfl, name, hname, tests, -, timeout, -, h⟩ := h
  cases h
  exact ⟨fields, rfl, ⟨(requiredName_eq_ok.1 hname).1⟩⟩

theorem Suite.exists_ofValue : (∃ s, Suite.ofValue v = .ok s) ↔ v.IsObject SuiteFields := by
  simp only [Suite.ofValue, Except.bind_eq_ok, Value.fields_eq_ok]
  constructor
  · rintro ⟨s, fields, rfl, name, hname, tests, htests, timeout, htimeout, -⟩
    exact ⟨fields, rfl, (exists_requiredName _ fields).1 ⟨name, hname⟩,
      exists_recordedItems.1 ⟨tests, htests⟩, exists_timeout.1 ⟨timeout, htimeout⟩⟩
  · rintro ⟨fields, rfl, hfields⟩
    obtain ⟨name, hname⟩ := (exists_requiredName "Suite" fields).2 hfields.named
    obtain ⟨tests, htests⟩ := exists_recordedItems.2 hfields.tests
    obtain ⟨timeout, htimeout⟩ := exists_timeout.2 hfields.timeout
    exact ⟨_, fields, rfl, name, hname, tests, htests, timeout, htimeout, rfl⟩

/-! Whole documents. -/

theorem absentOrList_iff : absentOrList fields key = true ↔
    ∀ v, field? fields key = some v → ∃ vs, v = .list vs := by
  unfold absentOrList
  cases field? fields key with
  | none => simp
  | some v => cases v <;> simp

theorem ofValue_object (fields : List (Text × Value)) :
    (∃ key ∈ listKeys, (∃ v, field? fields key = some v ∧ ∀ vs, v ≠ .list vs) ∧
      Project.ofValue (.object fields) = .error (.reported (.notList key))) ∨
    (∀ key ∈ listKeys, ∀ v, field? fields key = some v → ∃ vs, v = .list vs) ∧
      Project.ofValue (.object fields) =
        (Project.ofFields fields).mapError DocumentError.ofFault := by
  cases h : listKeys.find? fun key => !absentOrList fields key with
  | some key =>
    have hkey : ¬ absentOrList fields key = true := by simpa using List.find?_some h
    rw [absentOrList_iff] at hkey
    push Not at hkey
    exact .inl ⟨key, List.mem_of_find?_eq_some h, hkey, by simp only [Project.ofValue, h]⟩
  | none =>
    refine .inr ⟨fun key hkey => absentOrList_iff.1 ?_, by simp only [Project.ofValue, h]⟩
    simpa using List.find?_eq_none.1 h key hkey

theorem Project.ofFields_eq_ok {p : Project}
    (hlists : ∀ key ∈ listKeys, ∀ v, field? fields key = some v → ∃ vs, v = .list vs)
    (h : Project.ofFields fields = .ok p) : p.Records fields := by
  have htests := recordedItems_of_list (hlists "tests" (by decide))
  have hsuites := recordedItems_of_list (hlists "suites" (by decide))
  simp only [Project.ofFields, Except.bind_eq_ok, htests, hsuites, Except.ok.injEq] at h
  obtain ⟨urls, -, plugins, -, _, rfl, tests, ht, _, rfl, suites, hs, h⟩ := h
  cases h
  exact ⟨(Except.mapM_eq_ok.1 ht).imp fun _ _ => TestCase.ofValue_eq_ok,
    (Except.mapM_eq_ok.1 hs).imp fun _ _ => Suite.ofValue_eq_ok⟩

theorem Project.exists_ofFields
    (hlists : ∀ key ∈ listKeys, ∀ v, field? fields key = some v → ∃ vs, v = .list vs) :
    (∃ p, Project.ofFields fields = .ok p) ↔ ProjectFields fields := by
  have htests := recordedItems_of_list (hlists "tests" (by decide))
  have hsuites := recordedItems_of_list (hlists "suites" (by decide))
  have hplugins := recordedItems_of_list (hlists "plugins" (by decide))
  simp only [Project.ofFields, Except.bind_eq_ok, htests, hsuites, hplugins, Except.ok.injEq]
  constructor
  · rintro ⟨p, urls, hurls, _, rfl, _, rfl, tests, ht, _, rfl, suites, hs, -⟩
    exact ⟨hlists, exists_recordedItems.1 ⟨urls, hurls⟩,
      fun v hv => TestCase.exists_ofValue.1 (Except.exists_mapM_eq_ok.1 ⟨tests, ht⟩ v hv),
      fun v hv => Suite.exists_ofValue.1 (Except.exists_mapM_eq_ok.1 ⟨suites, hs⟩ v hv)⟩
  · intro h
    obtain ⟨urls, hurls⟩ := exists_recordedItems.2 h.urls
    obtain ⟨tests, ht⟩ := Except.exists_mapM_eq_ok.2
      fun v hv => TestCase.exists_ofValue.2 (h.tests v hv)
    obtain ⟨suites, hs⟩ := Except.exists_mapM_eq_ok.2
      fun v hv => Suite.exists_ofValue.2 (h.suites v hv)
    exact ⟨_, urls, hurls, _, rfl, _, rfl, tests, ht, _, rfl, suites, hs, rfl⟩

/-- The documents that are projects are the objects with the right fields; and a project has the
tests and the suites of its document, in order, with their names and commands. -/
theorem documents_accepted (v : Value) :
    ((∃ p, Project.ofValue v = .ok p) ↔ v.IsObject ProjectFields) ∧
      ∀ p, Project.ofValue v = .ok p → v.IsObject p.Records := by
  cases v with
  | object fields =>
    simp only [Value.isObject_object]
    obtain ⟨key, hkey, ⟨v, hv, hlist⟩, hof⟩ | ⟨hlists, hof⟩ := ofValue_object fields
    · rw [hof]
      refine ⟨⟨nofun, fun h => ?_⟩, nofun⟩
      obtain ⟨vs, hvs⟩ := h.lists key hkey v hv
      exact absurd hvs (hlist vs)
    · simp only [hof, Except.mapError_eq_ok]
      exact ⟨Project.exists_ofFields hlists, fun p => Project.ofFields_eq_ok hlists⟩
  | _ =>
    refine ⟨⟨nofun, ?_⟩, nofun⟩
    rintro ⟨_, h, -⟩
    cases h

/-- Fields that are odd, and still right: addresses in a text, references in the keys of an object,
a timeout in a text, and commands without a name. -/
theorem documents_accepted_of_odd_fields :
    let v : Value := .object
      [("urls", .text "ab"),
       ("suites", .list [.object
         [("name", .text " s "), ("tests", .object [("k", .null)]), ("timeout", .text " 4_2 ")]]),
       ("tests", .list [.object
         [("name", .text "t"), ("commands", .list [.object [], .object [("targets", .text "x")]])]])]
    ∃ p, Project.ofValue v = .ok p ∧ v.IsObject ProjectFields ∧ v.IsObject p.Records := by
  intro v
  obtain ⟨p, hp⟩ : ∃ p, Project.ofValue v = .ok p := ⟨_, rfl⟩
  exact ⟨p, hp, (documents_accepted v).1.1 ⟨p, hp⟩, (documents_accepted v).2 p hp⟩

end TestScribe
