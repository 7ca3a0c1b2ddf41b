import TestScribe.Proofs.Export.Translation
import TestScribe.Proofs.Format.Functions
import TestScribe.Proofs.Format.Shapes
import TestScribe.Proofs.Format.Suites

/-!
The class of a Java file, and its methods. A file declares one class, and its compiler wants the
file to be named after it. The line of the class comes behind the comment that names the unit, with
the class name that is asked for, while the filename always goes by the unit; so the two agree
exactly if no other name is asked for (`file_named_after_class_iff`). The class name of a unit does
not start with a digit, but the name of a method does if the title of its test does
(`method_named`).
-/

namespace TestScribe

open Text (nonBlank shown)

namespace Text

variable {t : Text} {c : Char}

theorem not_mem_toList {l : List Char} (h : c ∉ l) : c ∉ (String.ofList l).toList := by
  rwa [String.toList_ofList]

theorem trimEnd_prefix (t : Text) : trimEnd t <+: t := by
  obtain ⟨s, ht, -⟩ := exists_dropEndWhile_append isBlank t
  exact ⟨s, ht.symm⟩

theorem trimEnd_append_singleton (t : Text) (h : isBlank c = false) :
    trimEnd (t ++ [c]) = t ++ [c] := by
  have hlast : dropEndWhile isBlank [c] = [c] := by rw [dropEndWhile_cons_of_neg h]; rfl
  rw [trimEnd, dropEndWhile_append_of_ne_nil (by rw [hlast]; exact List.cons_ne_nil c []), hlast]

theorem shown_of_not_mem (h : '\n' ∉ t) : shown t = nonBlank [trimEnd t] := by
  rw [shown, lines, split_of_not_mem h, List.map_singleton]

theorem find?_nonBlank {q : Text → Bool} (h : ∀ l, q l = true → allBlank l = false)
    (ls : List Text) : (nonBlank ls).find? q = ls.find? q := by
  rw [nonBlank, List.find?_filter]
  refine congrArg (fun q => ls.find? q) (funext fun l => ?_)
  cases hq : q l with
  | false => simp
  | true => simp [h l hq]

end Text

namespace JUnit

def heading (name : Text) : List Text := ["", "/**", " * Generated from: " ++ name, " */"]

def concurrency (parallel : Bool) : List Text :=
  if parallel then ["@Execution(ExecutionMode.CONCURRENT)"] else []

def classLine (cls : Text) : Text := "public class " ++ cls ++ " \x7b"

def opensClass (line : Text) : Bool := "public class ".toList.isPrefixOf line

def declared (asked : Value) (name : Text) : Text :=
  if asked.holds then asked.display else className name

variable {asked : Value} {name cls header body line : Text} {p : Project} {parallel : Bool}

theorem exists_header_eq (h : JUnit.header asked name p parallel = .ok header) :
    ∃ rest, header = Text.unlines
      (heading name ++ concurrency parallel ++ classLine (declared asked name) :: rest) := by
  obtain ⟨url, -, h⟩ := Except.bind_eq_ok.1 h
  cases h
  exact ⟨_, rfl⟩

/-- Whether a file declares a class for a unit. -/
structure Declares (name : Text) (parallel : Bool) (cls body : Text) : Prop where
  /-- The line of the class comes behind the imports, the comment that names the unit, and the note
  on concurrency. -/
  placed : ∃ rest, nonBlank (Text.lines body) = shown (imports parallel) ++
    (heading name ++ concurrency parallel).flatMap shown ++ shown (classLine cls) ++ rest
  /-- It is the first line that opens a class. -/
  first : '\n' ∉ name → '\n' ∉ cls →
    (Text.lines body).find? opensClass = some (classLine cls)

theorem opensClass_trimEnd (h : opensClass line = false) :
    opensClass (Text.trimEnd line) = false := by
  rw [opensClass, Bool.eq_false_iff, Ne, List.isPrefixOf_iff_prefix] at h ⊢
  exact fun hopens => h (hopens.trans (Text.trimEnd_prefix line))

theorem not_allBlank_of_opensClass (h : opensClass line = true) : Text.allBlank line = false := by
  obtain ⟨rest, rfl⟩ := List.isPrefixOf_iff_prefix.1 h
  rfl

theorem not_opensClass_of_mem_flatMap {ts : List Text}
    (hts : ∀ t ∈ ts, '\n' ∉ t ∧ opensClass t = false) (h : line ∈ ts.flatMap shown) :
    opensClass line = false := by
  obtain ⟨t, ht, hline⟩ := List.mem_flatMap.1 h
  rw [Text.shown_of_not_mem (hts t ht).1] at hline
  rw [List.mem_singleton.1 (List.mem_of_mem_filter hline)]
  exact opensClass_trimEnd (hts t ht).2

theorem newline_not_mem_of_mem_imported {type : Text} (h : type ∈ imported parallel) :
    '\n' ∉ type := by
  have htypes : (∀ t ∈ testingTypes, '\n' ∉ t) ∧ (∀ t ∈ concurrencyTypes, '\n' ∉ t) ∧
      ∀ t ∈ importedTypes, '\n' ∉ t := by
    simp only [testingTypes, concurrencyTypes, importedTypes, List.forall_mem_cons]
    and_intros <;> first | exact Text.not_mem_toList (by decide) | exact nofun
  obtain ⟨htesting, hconcurrency, himported⟩ := htypes
  rw [imported, List.append_assoc, List.mem_append, List.mem_append] at h
  rcases h with h | h | h
  · exact htesting type h
  · split at h
    · exact hconcurrency type h
    · cases h
  · exact himported type h

theorem not_opensClass_of_mem_imports (h : line ∈ shown (imports parallel)) :
    opensClass line = false := by
  have hline : ∀ {type : Text}, '\n' ∉ type →
      '\n' ∉ importLine type ∧ opensClass (importLine type) = false := by
    intro type htype
    refine ⟨?_, rfl⟩
    unfold importLine
    simp [htype]
  rw [imports, Text.shown_unlines (by simp)] at h
  refine not_opensClass_of_mem_flatMap (List.forall_mem_append.2 ⟨?_, ?_⟩) h
  · rw [List.forall_mem_map]
    exact fun type htype => hline (newline_not_mem_of_mem_imported htype)
  · exact List.forall_mem_singleton.2 (hline (Text.not_mem_toList (by decide)))

theorem not_opensClass_of_mem_heading (hname : '\n' ∉ name)
    (h : line ∈ (heading name ++ concurrency parallel).flatMap shown) :
    opensClass line = false := by
  have htitle : '\n' ∉ (" * Generated from: " ++ name : Text) := by
    rw [List.mem_append, not_or]
    exact ⟨by decide, hname⟩
  refine not_opensClass_of_mem_flatMap (List.forall_mem_append.2 ⟨?_, ?_⟩) h
  · simp only [heading, List.forall_mem_cons]
    exact ⟨by decide, by decide, ⟨htitle, rfl⟩, by decide, nofun⟩
  · unfold concurrency
    split
    · exact List.forall_mem_singleton.2 (by decide)
    · exact nofun

theorem shown_classLine (h : '\n' ∉ cls) : shown (classLine cls) = [classLine cls] := by
  have hline : '\n' ∉ classLine cls := by
    unfold classLine
    simp [h]
  have htrim : Text.trimEnd (classLine cls) = classLine cls := by
    have hsplit : classLine cls = ("public class " ++ cls ++ " ".toList) ++ ['\x7b'] :=
      (List.append_assoc _ " ".toList ['\x7b']).symm
    rw [hsplit, Text.trimEnd_append_singleton _ (by decide)]
  rw [Text.shown_of_not_mem hline, htrim]
  rfl

/-- A generated file declares its class. -/
theorem declares_of_generate {r : Registry} {tests : List TestCase}
    (h : dialect.generate r asked name tests p parallel = .ok body) :
    Declares name parallel (declared asked name) body := by
  obtain ⟨header, parts, hheader, -, hcomposed⟩ := Dialect.isComposed_of_generate h
  obtain ⟨rest, rfl⟩ := exists_header_eq hheader
  obtain ⟨more, hplaced⟩ : ∃ more, nonBlank (Text.lines body) = shown (imports parallel) ++
      (heading name ++ concurrency parallel).flatMap shown ++
      shown (classLine (declared asked name)) ++ more := by
    refine ⟨rest.flatMap shown ++ ((parts.map fun b => dialect.laid (Text.unlines b)).flatMap
      nonBlank ++ shown dialect.footer), ?_⟩
    rw [hcomposed.shows, Text.shown_unlines (by simp), List.flatMap_append, List.flatMap_cons]
    simp only [List.append_assoc]
    rfl
  refine ⟨⟨more, hplaced⟩, fun hname hcls => ?_⟩
  have himports : (shown (imports parallel)).find? opensClass = none :=
    List.find?_eq_none.2 fun l hl => by rw [not_opensClass_of_mem_imports hl]; exact nofun
  have hheading : ((heading name ++ concurrency parallel).flatMap shown).find? opensClass = none :=
    List.find?_eq_none.2 fun l hl => by rw [not_opensClass_of_mem_heading hname hl]; exact nofun
  rw [← Text.find?_nonBlank fun l => not_allBlank_of_opensClass, hplaced, List.find?_append,
    List.find?_append, List.find?_append, himports, hheading, shown_classLine hcls]
  rfl

end JUnit

/-- A Java file declares a class, and is named after it exactly if no class name is asked for, or
just the one that the unit stands for. -/
theorem file_named_after_class_iff {r : Registry} {asked : Value} {m : Mode} {p : Project}
    {name : Text} {e : EmittedFile} (h : JUnit.dialect.emitNamed r asked m p name = .ok e) :
    ∃ parallel, JUnit.Declares name parallel (JUnit.declared asked name) e.body ∧
      (e.filename = JUnit.declared asked name ++ ".java" ↔
        asked.holds = false ∨ asked.display = JUnit.className name) := by
  obtain ⟨tests, parallel, -, hbody, hfile⟩ := Dialect.generate_of_emitNamed h
  refine ⟨parallel, JUnit.declares_of_generate hbody, ?_⟩
  have hname : JUnit.dialect.filename name = JUnit.className name ++ ".java" := rfl
  rw [hfile, hname, List.append_left_inj, JUnit.declared]
  cases hasked : asked.holds with
  | false => simp
  | true => simp [eq_comm]

/-- A suite whose name starts with a digit, with the class name that it stands for asked for. -/
theorem file_named_after_class_of_suite :
    let p : Project := {
      tests := [{ name := "Log in" }]
      suites := [{ name := "2fa shop", tests := ["Log in"], parallel := true }] }
    let asked := Value.text "_2faShopTest"
    ∃ e, JUnit.dialect.emitNamed .empty asked .suite p "2fa shop" = .ok e ∧
      ∃ parallel, JUnit.Declares "2fa shop" parallel (JUnit.declared asked "2fa shop") e.body ∧
        (e.filename = JUnit.declared asked "2fa shop" ++ ".java" ↔
          asked.holds = false ∨ asked.display = JUnit.className "2fa shop") ∧
        e.filename = "_2faShopTest.java" := by
  intro p asked
  have hmade : (JUnit.dialect.emitNamed .empty asked .suite p "2fa shop").isOk = true := by
    decide +kernel
  cases h : JUnit.dialect.emitNamed .empty asked .suite p "2fa shop" with
  | error f =>
    rw [h] at hmade
    cases hmade
  | ok e =>
    obtain ⟨parallel, hdeclares, hiff⟩ := file_named_after_class_iff h
    obtain ⟨-, -, -, -, hfile⟩ := Dialect.generate_of_emitNamed h
    exact ⟨e, rfl, parallel, hdeclares, hiff, hfile.trans (by decide)⟩

/-- A class name that is asked for goes into the file, and the file is called as it was before. -/
theorem class_named_otherwise_than_file :
    let p : Project := { tests := [{ name := "Log in" }] }
    ∃ e, JUnit.dialect.emitNamed .empty (.text "Shop") .test p "Log in" = .ok e ∧
      e.filename = "LogInTest.java" ∧
      (Text.lines e.body).find? JUnit.opensClass = some "public class Shop \x7b".toList := by
  intro p
  have hmade : (JUnit.dialect.emitNamed .empty (.text "Shop") .test p "Log in").isOk = true := by
    decide +kernel
  cases h : JUnit.dialect.emitNamed .empty (.text "Shop") .test p "Log in" with
  | error f =>
    rw [h] at hmade
    cases hmade
  | ok e =>
    obtain ⟨_, _, -, hbody, hfile⟩ := Dialect.generate_of_emitNamed h
    exact ⟨e, rfl, hfile.trans (by decide),
      (JUnit.declares_of_generate hbody).first (by decide) (by decide)⟩

/-- The method of a test is named by letters and digits, at least one of them, and the first of
these is a digit exactly if the first letter or digit of the test's name is one. -/
theorem method_named (t : TestCase) :
    Text.lines (JUnit.testHeader t) =
      ["    @Test".toList, JUnit.methodLine (JUnit.methodName t)] ∧
    JUnit.methodName t ≠ [] ∧ (∀ c ∈ JUnit.methodName t, Naming.isPlain c = true) ∧
    ((∃ c, (JUnit.methodName t).head? = some c ∧ Naming.isDigit c = true) ↔
      ∃ c, t.name.find? Naming.isPlain = some c ∧ Naming.isDigit c = true) := by
  obtain ⟨r, hname⟩ : ∃ r, JUnit.methodName t = (Naming.initial t.name).toLower :: r :=
    Naming.exists_camel_eq t.name
  have hplain : ∀ c ∈ JUnit.methodName t, Naming.isPlain c = true :=
    fun c => Naming.isPlain_of_mem_camel
  refine ⟨?_, by rw [hname]; exact List.cons_ne_nil _ r, hplain, ?_⟩
  · have hmethod : '\n' ∉ JUnit.methodName t := fun h => absurd (hplain _ h) (by decide)
    rw [JUnit.testHeader_eq]
    refine Text.lines_unlines_of_not_mem (List.cons_ne_nil _ _) ?_
    simp only [List.forall_mem_cons]
    exact ⟨by decide, JUnit.newline_not_mem_methodLine hmethod, nofun⟩
  · rw [← Naming.isDigit_initial_iff, ← Naming.isDigit_toLower (Naming.isPlain_initial t.name),
      hname]
    constructor
    · rintro ⟨c, ⟨⟩, hdigit⟩
      exact hdigit
    · intro hdigit
      exact ⟨_, rfl, hdigit⟩

/-- A test whose title starts with a digit: so does the name of its method, and not that of the
class that it has in a file of its own. -/
theorem method_named_by_digit :
    let t : TestCase := { name := "2fa login" }
    Text.lines (JUnit.testHeader t) = ["    @Test".toList, "    public void 2faLogin() \x7b"] ∧
      Naming.isDigit '2' = true ∧ JUnit.className t.name = "_2faLoginTest" := by
  decide +kernel

end TestScribe
