import TestScribe.Project.File
import TestScribe.Proofs.Json.Reading
import TestScribe.Proofs.Project.Documents

/-!
How loading a project fails. Whatever a file holds and whatever values stand in its document, a
project comes of it or the failure is reported, with three exceptions: a path that no operating
system takes, a number of more digits than are read, and a suite whose timeout is infinite, if
nothing before it in the document is wrong (`load_escapes_iff`).
-/

namespace TestScribe

open Value (field?)

def Fault.IsCovered (f : Fault) : Prop := ∃ e, DocumentError.ofFault f = .reported e

/-- What the fields of a suite are if nothing is wrong with it but an infinite timeout. -/
structure EndlessFields (fields : List (Text × Value)) : Prop where
  named : IsNamed fields
  tests : IfHolds Value.HasItems fields "tests"
  timeout : ∃ negative, field? fields "timeout" = some (.float (.infinite negative))

/-- What the fields of a document are if the first thing wrong with it is an infinite timeout. -/
structure OverflowFields (fields : List (Text × Value)) : Prop where
  lists : ∀ key ∈ (["tests", "suites", "plugins"] : List Text), ∀ v, field? fields key = some v →
    ∃ vs, v = .list vs
  urls : IfHolds Value.HasItems fields "urls"
  tests : ∀ v ∈ listed fields "tests", v.IsObject TestFields
  suites : ∃ before v after, listed fields "suites" = before ++ v :: after ∧
    (∀ s ∈ before, s.IsObject SuiteFields) ∧ v.IsObject EndlessFields

variable {fields : List (Text × Value)} {key what : Text} {v : Value} {f : Fault}

theorem Fault.not_isCovered_infinity : ¬ infinityToInteger.IsCovered := by
  rintro ⟨e, h⟩
  cases h

/-! The faults of the parts of a document. -/

theorem isCovered_of_fields (h : v.fields = .error f) : f.IsCovered := by
  cases v <;> cases h <;> exact ⟨_, rfl⟩

theorem isCovered_of_recordedItems (h : recordedItems fields key = .error f) : f.IsCovered := by
  obtain ⟨-, rfl⟩ := Value.items_eq_error.1 h
  exact ⟨_, rfl⟩

theorem isCovered_of_requiredName (h : requiredName what fields = .error f) : f.IsCovered := by
  unfold requiredName at h
  split at h
  · cases h
    exact ⟨_, rfl⟩
  · split at h
    · cases h
      exact ⟨_, rfl⟩
    · cases h
  · cases h
    exact ⟨_, rfl⟩

theorem isCovered_of_integer (h : v.integer = .error f) :
    f.IsCovered ∨ f = .infinityToInteger ∧ ∃ negative, v = .float (.infinite negative) := by
  cases v with
  | float x =>
    cases x with
    | notANumber =>
      cases h
      exact .inl ⟨_, rfl⟩
    | infinite negative =>
      cases h
      exact .inr ⟨rfl, negative, rfl⟩
    | finite s m q => cases h
  | text t =>
    rw [Value.integer] at h
    split at h <;> cases h <;> exact .inl ⟨_, rfl⟩
  | null => cases h; exact .inl ⟨_, rfl⟩
  | list vs => cases h; exact .inl ⟨_, rfl⟩
  | object fs => cases h; exact .inl ⟨_, rfl⟩
  | bool b => cases h
  | int n => cases h

theorem Command.isCovered (h : Command.ofValue v = .error f) : f.IsCovered := by
  simp only [Command.ofValue, Except.bind_eq_error] at h
  obtain h | ⟨fields, -, h | ⟨targets, -, h⟩⟩ := h
  · exact isCovered_of_fields h
  · exact isCovered_of_recordedItems h
  · cases h

theorem TestCase.isCovered (h : TestCase.ofValue v = .error f) : f.IsCovered := by
  simp only [TestCase.ofValue, Except.bind_eq_error] at h
  obtain h | ⟨fields, -, h | ⟨name, -, h | ⟨items, -, h | ⟨commands, -, h⟩⟩⟩⟩ := h
  · exact isCovered_of_fields h
  · exact isCovered_of_requiredName h
  · exact isCovered_of_recordedItems h
  · obtain ⟨before, c, after, -, -, hc⟩ := Except.mapM_eq_error.1 h
    exact Command.isCovered hc
  · cases h

theorem Suite.isCovered (h : Suite.ofValue v = .error f) :
    f.IsCovered ∨ f = .infinityToInteger ∧ v.IsObject EndlessFields := by
  simp only [Suite.ofValue, Except.bind_eq_error, Value.fields_eq_ok] at h
  obtain h | ⟨fields, rfl, h | ⟨name, hname, h | ⟨tests, htests, h | ⟨timeout, -, h⟩⟩⟩⟩ := h
  · exact .inl (isCovered_of_fields h)
  · exact .inl (isCovered_of_requiredName h)
  · exact .inl (isCovered_of_recordedItems h)
  · obtain h | ⟨rfl, negative, hv⟩ := isCovered_of_integer h
    · exact .inl h
    · refine .inr ⟨rfl, Value.isObject_object.2 ⟨(exists_requiredName _ fields).1 ⟨name, hname⟩,
        exists_recordedItems.1 ⟨tests, htests⟩, negative, ?_⟩⟩
      unfold Value.orElse at hv
      split at hv
      · cases hf : field? fields "timeout" with
        | none =>
          rw [hf] at hv
          cases hv
        | some w =>
          rw [hf] at hv
          exact congrArg some hv
      · cases hv
  · cases h

theorem Suite.ofValue_of_endless (h : v.IsObject EndlessFields) :
    Suite.ofValue v = .error .infinityToInteger := by
  obtain ⟨fields, rfl, hnamed, htests, negative, htimeout⟩ := h
  obtain ⟨name, hname⟩ := (exists_requiredName "Suite" fields).2 hnamed
  obtain ⟨tests, htests⟩ := exists_recordedItems.2 htests
  simp only [Suite.ofValue, Except.bind_eq_error]
  refine .inr ⟨fields, rfl, .inr ⟨name, hname, .inr ⟨tests, htests, .inl ?_⟩⟩⟩
  rw [htimeout]
  rfl

/-! Whole documents. -/

theorem Project.isCovered
    (hlists : ∀ key ∈ listKeys, ∀ v, field? fields key = some v → ∃ vs, v = .list vs)
    (h : Project.ofFields fields = .error f) :
    f.IsCovered ∨ f = .infinityToInteger ∧ OverflowFields fields := by
  have htests := recordedItems_of_list (hlists "tests" (by decide))
  have hsuites := recordedItems_of_list (hlists "suites" (by decide))
  simp only [Project.ofFields, Except.bind_eq_error, htests, hsuites, Except.ok.injEq,
    reduceCtorEq, false_or] at h
  obtain h | ⟨urls, hurls, h | ⟨plugins, -, _, rfl, h | ⟨tests, ht, _, rfl, h | ⟨suites, -, h⟩⟩⟩⟩ := h
  · exact .inl (isCovered_of_recordedItems h)
  · exact .inl (isCovered_of_recordedItems h)
  · obtain ⟨before, v, after, -, -, hv⟩ := Except.mapM_eq_error.1 h
    exact .inl (TestCase.isCovered hv)
  · obtain ⟨before, v, after, hsplit, hbefore, hv⟩ := Except.mapM_eq_error.1 h
    obtain hcovered | ⟨rfl, hendless⟩ := Suite.isCovered hv
    · exact .inl hcovered
    · exact .inr ⟨rfl, hlists, exists_recordedItems.1 ⟨urls, hurls⟩,
        fun t hmem => TestCase.exists_ofValue.1 (Except.exists_mapM_eq_ok.1 ⟨tests, ht⟩ t hmem),
        before, v, after, hsplit, fun s hs => Suite.exists_ofValue.1 (hbefore s hs), hendless⟩
  · cases h

theorem Project.ofFields_of_overflow (h : OverflowFields fields) :
    Project.ofFields fields = .error .infinityToInteger := by
  obtain ⟨before, v, after, hsplit, hbefore, hv⟩ := h.suites
  have htests := recordedItems_of_list (h.lists "tests" (by decide))
  have hsuites := recordedItems_of_list (h.lists "suites" (by decide))
  have hplugins := recordedItems_of_list (h.lists "plugins" (by decide))
  obtain ⟨urls, hurls⟩ := exists_recordedItems.2 h.urls
  obtain ⟨tests, ht⟩ := Except.exists_mapM_eq_ok.2
    fun t ht => TestCase.exists_ofValue.2 (h.tests t ht)
  have hfail : (listed fields "suites").mapM Suite.ofValue = .error .infinityToInteger :=
    Except.mapM_eq_error.2 ⟨before, v, after, hsplit,
      fun s hs => Suite.exists_ofValue.2 (hbefore s hs), Suite.ofValue_of_endless hv⟩
  simp only [Project.ofFields, Except.bind_eq_error]
  exact .inr ⟨urls, hurls, .inr ⟨_, hplugins, .inr ⟨_, htests, .inr ⟨tests, ht,
    .inr ⟨_, hsuites, .inl hfail⟩⟩⟩⟩⟩

theorem ofFault_eq_escaped {g : Fault} :
    DocumentError.ofFault f = .escaped g ↔ ¬ f.IsCovered ∧ g = f := by
  have hcases : (∃ e, DocumentError.ofFault f = .reported e) ∨
      DocumentError.ofFault f = .escaped f := by
    unfold DocumentError.ofFault
    split
    · exact .inl ⟨_, rfl⟩
    · split
      case h_4 => exact .inr rfl
      all_goals exact .inl ⟨_, rfl⟩
  unfold Fault.IsCovered
  obtain ⟨e, h⟩ | h := hcases <;> simp [h, eq_comm]

/-- A document is read to its end or reported, unless the first thing wrong with it is an infinite
timeout. -/
theorem Project.ofValue_eq_escaped :
    Project.ofValue v = .error (.escaped f) ↔
      f = .infinityToInteger ∧ v.IsObject OverflowFields := by
  cases v with
  | object fields =>
    rw [Value.isObject_object]
    obtain ⟨key, hkey, ⟨v, hv, hlist⟩, hof⟩ | ⟨hlists, hof⟩ := ofValue_object fields
    · rw [hof]
      refine ⟨nofun, fun ⟨_, h⟩ => ?_⟩
      obtain ⟨vs, hvs⟩ := h.lists key hkey v hv
      exact absurd hvs (hlist vs)
    · rw [hof, Except.mapError_eq_error]
      constructor
      · rintro ⟨g, hg, hescaped⟩
        obtain ⟨hnot, rfl⟩ := ofFault_eq_escaped.1 hescaped
        exact (Project.isCovered hlists hg).resolve_left hnot
      · rintro ⟨rfl, h⟩
        exact ⟨_, Project.ofFields_of_overflow h,
          ofFault_eq_escaped.2 ⟨Fault.not_isCovered_infinity, rfl⟩⟩
  | _ =>
    refine ⟨nofun, ?_⟩
    rintro ⟨-, _, h, -⟩
    cases h

/-! Project files. -/

variable {files : FileTree} {path : Path} {name : Text} {content : FileContent}

theorem Project.content_eq_escaped : Project.content files path = .error (.escaped f) ↔
    ∃ e, files.read path = .error e ∧ e.cause = .embeddedNul ∧ f = .file e := by
  rw [Project.content, Except.mapError_eq_error]
  refine exists_congr fun e => and_congr_right fun _ => ?_
  cases e.cause <;> simp [eq_comm]

theorem Project.content_eq_ok : Project.content files path = .ok content ↔
    files.read path = .ok content := Except.mapError_eq_ok

theorem Project.decode_eq_escaped : Project.decode name content = .error (.escaped f) ↔
    ∃ t n, content.text? = some t ∧ Json.read t = .error (.tooManyDigits n) ∧
      f = .tooManyDigits n := by
  unfold Project.decode
  cases content.text? with
  | none => simp
  | some t =>
    cases h : Json.read t with
    | ok v => simp [h]
    | error e => cases e <;> simp [h, eq_comm]

theorem Project.decode_eq_ok : Project.decode name content = .ok v ↔
    ∃ t, content.text? = some t ∧ Json.read t = .ok v := by
  unfold Project.decode
  cases content.text? with
  | none => simp
  | some t =>
    cases h : Json.read t with
    | ok v => simp [h]
    | error e => cases e <;> simp [h]

theorem Project.ofDocument_eq_escaped : Project.ofDocument v = .error (.escaped f) ↔
    Project.ofValue v = .error (.escaped f) := by
  rw [Project.ofDocument, Except.mapError_eq_error]
  constructor
  · rintro ⟨e, h, he⟩
    cases e with
    | reported e => cases he
    | escaped g =>
      cases he
      exact h
  · intro h
    exact ⟨_, h, rfl⟩

/-- Documents and project files are read or their failure is reported, but for a path with a NUL in
it, a number with too many digits, and a timeout that is infinite. -/
theorem load_escapes_iff (v : Value) (files : FileTree) (path : Path) (f : Fault) :
    (Project.ofValue v = .error (.escaped f) ↔
      f = .infinityToInteger ∧ v.IsObject OverflowFields) ∧
    (Project.load files path = .error (.escaped f) ↔
      (∃ e, files.read path = .error e ∧ e.cause = .embeddedNul ∧ f = .file e) ∨
      ∃ content t, files.read path = .ok content ∧ content.text? = some t ∧
        ((∃ n, Json.read t = .error (.tooManyDigits n) ∧ f = .tooManyDigits n) ∨
          ∃ v, Json.read t = .ok v ∧ f = .infinityToInteger ∧ v.IsObject OverflowFields)) ∧
    ∀ t n, Json.read t = .error (.tooManyDigits n) → Json.HasLongRun n t := by
  refine ⟨Project.ofValue_eq_escaped, ?_, fun t n => Json.longRun_of_read⟩
  simp only [Project.load, Except.bind_eq_error, Project.content_eq_escaped, Project.content_eq_ok,
    Project.decode_eq_escaped, Project.decode_eq_ok, Project.ofDocument_eq_escaped,
    Project.ofValue_eq_escaped]
  constructor
  · rintro (h | ⟨content, hread, ⟨t, n, ht, hn, hf⟩ | ⟨v, ⟨t, ht, hv⟩, hf⟩⟩)
    · exact .inl h
    · exact .inr ⟨content, t, hread, ht, .inl ⟨n, hn, hf⟩⟩
    · exact .inr ⟨content, t, hread, ht, .inr ⟨v, hv, hf⟩⟩
  · rintro (h | ⟨content, t, hread, ht, ⟨n, hn, hf⟩ | ⟨v, hv, hf⟩⟩)
    · exact .inl h
    · exact .inr ⟨content, hread, .inl ⟨t, n, ht, hn, hf⟩⟩
    · exact .inr ⟨content, hread, .inr ⟨v, ⟨t, ht, hv⟩, hf⟩⟩

/-- A file with a suite that never ends. -/
theorem infinite_timeout_escapes :
    let content : Text := "\x7b\"suites\": [\x7b\"name\": \"s\", \"timeout\": Infinity\x7d]\x7d"
    let files : FileTree := ⟨[(["p"], .file (.text content))]⟩
    (Project.load files ⟨1, ["p"]⟩ matches .error (.escaped .infinityToInteger)) = true := by
  decide +kernel

end TestScribe
