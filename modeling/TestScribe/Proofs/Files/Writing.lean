import Mathlib.Data.List.Induction
import Mathlib.Logic.Function.Basic
import TestScribe.Proofs.Files.Growth
import TestScribe.Writing

/-!
Writing texts one after another. The directories that are made on the way to a file are all that a
step adds besides this file (`exists_paves`), so a step changes what the file at its own place
holds, if it gets there, and no other file (`comesTo_perform`). Where that place is can be read from
the path (`locate_eq_resolved`), so what a file holds in the end is what the last step has left at
its place (`exists_last`, `held_afterAll`). And every entry goes on standing in a directory
(`isSound_afterAll`), so no file ever stands below another one.
-/

namespace TestScribe

def Entry.content? : Entry → Option FileContent
  | .file c => some c
  | .directory => none

namespace FileTree

def file? (t : FileTree) (l : Location) : Option FileContent := (t.at? l).bind Entry.content?

/-- Whether every entry stands in a directory, as it is in any file system without links. -/
def IsSound (t : FileTree) : Prop :=
  ∀ dir name e, t.at? (dir ++ [name]) = some e → t.at? dir = some .directory

/-- Whether no file stands below another one. -/
def IsSeparate (t : FileTree) : Prop :=
  ∀ k l, (t.file? k).isSome → (t.file? l).isSome → k <+: l → k = l

variable {t s u : FileTree} {l k dir : Location} {name : Text} {parts : List Text}
  {c : FileContent} {e : Entry} {body : Text} {p : Path}

theorem file?_eq_some : t.file? l = some c ↔ t.at? l = some (.file c) := by
  rw [file?, Option.bind_eq_some_iff]
  constructor
  · rintro ⟨e, he, hc⟩
    cases e <;> cases hc
    exact he
  · exact fun h => ⟨_, h, rfl⟩

theorem file?_put (hl : l ≠ []) (e : Entry) :
    (t.put l e).file? = Function.update t.file? l e.content? := by
  funext k
  rw [file?, at?_put t hl]
  by_cases hk : k = l
  · subst hk
    rw [if_pos rfl, Function.update_self]
    rfl
  · rw [if_neg hk, Function.update_of_ne hk]
    rfl

theorem IsSound.above (ht : t.IsSound) {rest : List Text} (hrest : rest ≠ []) {e : Entry}
    (h : t.at? (l ++ rest) = some e) : t.at? l = some .directory := by
  induction rest using List.reverseRecOn generalizing e with
  | nil => exact absurd rfl hrest
  | append_singleton rest name ih =>
    rw [← List.append_assoc] at h
    have hdir := ht _ _ _ h
    by_cases hnil : rest = []
    · rwa [hnil, List.append_nil] at hdir
    · exact ih hnil hdir

theorem IsSound.isSeparate (ht : t.IsSound) : t.IsSeparate := by
  rintro k l hk hl ⟨rest, rfl⟩
  obtain ⟨c, hc⟩ := Option.isSome_iff_exists.1 hk
  obtain ⟨d, hd⟩ := Option.isSome_iff_exists.1 hl
  rw [file?_eq_some] at hc hd
  by_cases hrest : rest = []
  · rw [hrest, List.append_nil]
  · rw [ht.above hrest hd] at hc
    cases hc

theorem IsSound.put (ht : t.IsSound) (hdir : t.at? dir = some .directory)
    (hkind : e = .directory ∨ t.isDirectory (dir ++ [name]) = false) :
    (t.put (dir ++ [name]) e).IsSound := by
  have hne : dir ++ [name] ≠ [] := by simp
  intro d n f hf
  rw [at?_put t hne] at hf ⊢
  by_cases hhere : d ++ [n] = dir ++ [name]
  · obtain ⟨rfl, -⟩ := List.append_inj' hhere rfl
    rw [if_neg (by simp)]
    exact hdir
  · rw [if_neg hhere] at hf
    have hd := ht d n f hf
    split
    · rename_i hnew
      rcases hkind with rfl | hfile
      · rfl
      · rw [hnew, ← isDirectory_iff, hfile] at hd
        cases hd
    · exact hd

theorem isSound_of_entries (h : ∀ entry ∈ t.entries, t.isDirectory entry.1.dropLast = true) :
    t.IsSound := by
  intro dir name e he
  rw [at?, if_neg (by simp)] at he
  obtain ⟨before, after, hsplit, -⟩ := List.lookup_eq_some_iff.1 he
  have hdir := h (dir ++ [name], e) (by simp [hsplit])
  rwa [List.dropLast_concat, isDirectory_iff] at hdir

/-- Whether a tree comes of another one by making directories. -/
structure Paves (t u : FileTree) : Prop where
  keeps : Keeps t u
  files : u.file? = t.file?
  sound : t.IsSound → u.IsSound

theorem Paves.refl (t : FileTree) : Paves t t := ⟨Keeps.refl t, rfl, id⟩

theorem paves_makeWay (slashes : Nat) (t : FileTree) (back : List Text) :
    Paves t (makeWay slashes t back).1 := by
  refine makeWay_induction (P := Paves t) slashes ?_ back t (Paves.refl t)
  rintro u parts s ⟨hkeeps, hfiles, hsound⟩ hs
  obtain ⟨dir, name, hdir, hnone, rfl⟩ := makeDirectory_eq_ok hs
  refine ⟨hkeeps.trans (keeps_put hnone), ?_, fun ht => ?_⟩
  · rw [file?_put (by simp), ← hfiles, Function.update_eq_self_iff]
    simp [file?, hnone, Entry.content?]
  · exact (hsound ht).put (isDirectory_iff.1 hdir) (.inl rfl)

theorem exists_paves (t : FileTree) (p : Path) (body : Text) : ∃ u, Paves t u ∧
    ((∃ e, t.write p body = (u, some e)) ∨
      ∃ s, t.write p body = (s, none) ∧ u.save p.parts body = .ok s) := by
  obtain ⟨u, hu, hwrite⟩ := write_eq_save t p body
  refine ⟨u, ?_, hwrite⟩
  rcases hu with rfl | rfl
  · exact Paves.refl _
  · exact paves_makeWay _ _ _

theorem IsSound.save (ht : t.IsSound) (h : t.save parts body = .ok s) :
    ∃ dir name, t.at? dir = some .directory ∧ t.isDirectory (dir ++ [name]) = false ∧
      s = t.put (dir ++ [name]) (.file (.text body)) := by
  obtain ⟨-, dir, name, l, -, -, hplace, hfile, rfl⟩ := save_eq_ok h
  obtain ⟨hdir, ⟨-, rfl⟩ | ⟨-, -, rfl⟩⟩ := place_eq_ok.1 hplace
  · -- what is above a directory is one itself, so that no text is saved there
    rw [isDirectory_iff] at hdir
    obtain rfl | ⟨front, last, rfl⟩ := List.eq_nil_or_concat' dir
    · simp [isDirectory] at hfile
    · rw [List.dropLast_concat, ← Bool.not_eq_true, isDirectory_iff] at hfile
      exact absurd (ht _ _ _ hdir) hfile
  · exact ⟨dir, name, isDirectory_iff.1 hdir, hfile, rfl⟩

theorem IsSound.write (ht : t.IsSound) (p : Path) (body : Text) : (t.write p body).1.IsSound := by
  obtain ⟨u, hpaves, ⟨e, hwrite⟩ | ⟨s, hwrite, hsave⟩⟩ := exists_paves t p body
  · rw [hwrite]
    exact hpaves.sound ht
  · obtain ⟨dir, name, hdir, hfile, rfl⟩ := (hpaves.sound ht).save hsave
    rw [hwrite]
    exact (hpaves.sound ht).put hdir (.inr hfile)

theorem follow_eq_resolved (h : parts.foldlM t.enter dir = .ok l) :
    l = (parts.foldl Path.follow dir.reverse).reverse := by
  induction parts generalizing dir with
  | nil => simpa [pure, Except.pure, eq_comm] using h
  | cons name rest ih =>
    rw [List.foldlM_cons, Except.bind_eq_ok] at h
    obtain ⟨k, hk, hrest⟩ := h
    have hstep : k.reverse = Path.follow dir.reverse name := by
      unfold Path.follow
      obtain ⟨-, ⟨hdots, rfl⟩ | ⟨hdots, -, rfl⟩⟩ := place_eq_ok.1 (enter_eq_ok.1 hk).1
      · rw [if_pos hdots, List.tail_reverse]
      · rw [if_neg hdots, List.reverse_append, List.reverse_singleton, List.singleton_append]
    rw [ih hrest, hstep, List.foldl_cons]

theorem locate_eq_resolved (h : t.locate p.parts = .ok l) : l = p.resolved.parts :=
  follow_eq_resolved h

/-- A write that fails changes no file, and one that succeeds changes only the one at the place of
its path. -/
theorem file?_write (t : FileTree) (p : Path) (body : Text) :
    (t.write p body).1.file? = if (t.write p body).2 = none then
      Function.update t.file? p.resolved.parts (some (.text body)) else t.file? := by
  obtain ⟨u, hpaves, ⟨e, hwrite⟩ | ⟨s, hwrite, hsave⟩⟩ := exists_paves t p body
  · rw [hwrite, if_neg (by simp)]
    exact hpaves.files
  · obtain ⟨-, l, hfile, rfl, hl⟩ := locate_save hsave
    rw [hwrite, if_pos rfl, ← locate_eq_resolved hl, file?_put (ne_nil_of_not_directory hfile),
      hpaves.files]
    rfl

end FileTree

namespace Writing

variable {w : Writing} {t s : FileTree} {l : Location} {text : Text}

def place (w : Writing) : Location := w.path.resolved.parts

/-- What a step has left in its file, if it got there. -/
def left? (w : Writing) (t : FileTree) : Option Text :=
  match (w.perform t).2 with
  | none => w.content.text?
  | some .notEncodable => some []
  | some (.file _) => none

/-- What a step on a tree comes to. Either the file of the path holds what was to be written, or
nothing has changed in any file; or, if that cannot be encoded, the file is empty. No other file has
changed. -/
inductive ComesTo (w : Writing) (t : FileTree) : FileTree × Option WriteError → Prop
  | written {s : FileTree} {text : Text} (encoded : w.content = RawText.ofText text)
    (held : s.read w.path = .ok (.text text))
    (framed : s.file? = Function.update t.file? w.place (some (.text text))) :
    ComesTo w t (s, none)
  | failed {s : FileTree} {e : FileError} (unchanged : s.file? = t.file?) :
    ComesTo w t (s, some (.file e))
  | emptied {s : FileTree} (unencodable : ∀ text, w.content ≠ RawText.ofText text)
    (held : s.read w.path = .ok (.text []))
    (framed : s.file? = Function.update t.file? w.place (some (.text []))) :
    ComesTo w t (s, some .notEncodable)

theorem comesTo_perform (w : Writing) (t : FileTree) : w.ComesTo t (w.perform t) := by
  have hread : (t.write w.path (w.content.text?.getD [])).2 = none →
      (t.write w.path (w.content.text?.getD [])).1.read w.path =
        .ok (.text (w.content.text?.getD [])) := FileTree.read_write
  have hframe := FileTree.file?_write t w.path (w.content.text?.getD [])
  unfold perform FileTree.writeRaw
  cases hwrite : t.write w.path (w.content.text?.getD []) with
  | mk s e =>
    rw [hwrite] at hread hframe
    cases e with
    | some e => exact .failed hframe
    | none =>
      cases hcontent : w.content.text? with
      | some text =>
        rw [hcontent] at hread hframe
        exact .written (RawText.text?_eq_some.1 hcontent) (hread rfl) hframe
      | none =>
        rw [hcontent] at hread hframe
        refine .emptied (fun text htext => ?_) (hread rfl) hframe
        rw [htext, RawText.text?_ofText] at hcontent
        cases hcontent

/-- A step that leaves something leaves it in its file and nowhere else; one that leaves nothing has
changed no file. -/
theorem file?_perform (w : Writing) (t : FileTree) :
    (w.perform t).1.file? = match w.left? t with
      | some text => Function.update t.file? w.place (some (.text text))
      | none => t.file? := by
  have hcomes := w.comesTo_perform t
  unfold left?
  generalize w.perform t = result at hcomes ⊢
  cases hcomes with
  | written hencoded hheld hframed =>
    rw [hencoded, RawText.text?_ofText]
    exact hframed
  | failed hunchanged => exact hunchanged
  | emptied hunencodable hheld hframed => exact hframed

theorem read_perform (h : w.left? t = some text) :
    (w.perform t).1.read w.path = .ok (.text text) := by
  have hcomes := w.comesTo_perform t
  unfold left? at h
  generalize w.perform t = result at hcomes h ⊢
  cases hcomes with
  | written hencoded hheld hframed =>
    rw [hencoded, RawText.text?_ofText] at h
    cases h
    exact hheld
  | failed hunchanged => cases h
  | emptied hunencodable hheld hframed =>
    cases h
    exact hheld

theorem fst_perform (w : Writing) (t : FileTree) :
    (w.perform t).1 = (t.write w.path (w.content.text?.getD [])).1 := FileTree.fst_writeRaw _ _ _

def LeavesAt (w : Writing) (t : FileTree) (l : Location) (text : Text) : Prop :=
  w.place = l ∧ w.left? t = some text

end Writing

namespace FileTree

variable {t s u : FileTree} {w : Writing} {before after ws : List Writing} {l : Location}
  {text : Text}

def afterAll (t : FileTree) (ws : List Writing) : FileTree :=
  ws.foldl (fun s w => (w.perform s).1) t

@[simp] theorem afterAll_nil (t : FileTree) : t.afterAll [] = t := rfl
@[simp] theorem afterAll_cons (t : FileTree) (w : Writing) (ws : List Writing) :
    t.afterAll (w :: ws) = (w.perform t).1.afterAll ws := rfl

/-- Whether no step of a sequence leaves anything at a location. -/
def IsUntouched (t : FileTree) (ws : List Writing) (l : Location) : Prop :=
  ∀ before w after, ws = before ++ w :: after → ∀ text, ¬ w.LeavesAt (t.afterAll before) l text

theorem isUntouched_cons : t.IsUntouched (w :: ws) l ↔
    (∀ text, ¬ w.LeavesAt t l text) ∧ (w.perform t).1.IsUntouched ws l := by
  constructor
  · intro h
    refine ⟨h [] w ws rfl, fun before v after hws => ?_⟩
    exact h (w :: before) v after (by rw [hws, List.cons_append])
  · rintro ⟨hfirst, hrest⟩ before v after hws
    cases before with
    | nil =>
      cases hws
      exact hfirst
    | cons v' before =>
      cases hws
      exact hrest before v after rfl

theorem isSound_afterAll (ht : t.IsSound) (ws : List Writing) : (t.afterAll ws).IsSound := by
  induction ws generalizing t with
  | nil => exact ht
  | cons w ws ih =>
    have hstep : (w.perform t).1.IsSound := by
      rw [w.fst_perform]
      exact ht.write _ _
    exact ih hstep

theorem grows_afterAll (t : FileTree) (ws : List Writing) : Grows t (t.afterAll ws) := by
  induction ws generalizing t with
  | nil => exact (Keeps.refl t).grows
  | cons w ws ih =>
    have hstep : Grows t (w.perform t).1 := by
      rw [w.fst_perform]
      exact write_grows _ _ _
    exact hstep.trans (ih _)

theorem file?_of_isUntouched (h : t.IsUntouched ws l) : (t.afterAll ws).file? l = t.file? l := by
  induction ws generalizing t with
  | nil => rfl
  | cons w ws ih =>
    obtain ⟨hfirst, hrest⟩ := isUntouched_cons.1 h
    rw [afterAll_cons, ih hrest, w.file?_perform]
    cases hleft : w.left? t with
    | none => rfl
    | some text => exact Function.update_of_ne (fun hl => hfirst text ⟨hl.symm, hleft⟩) _ _

theorem exists_last (t : FileTree) (ws : List Writing) (l : Location) : t.IsUntouched ws l ∨
    ∃ before w after text, ws = before ++ w :: after ∧ w.LeavesAt (t.afterAll before) l text ∧
      (w.perform (t.afterAll before)).1.IsUntouched after l := by
  induction ws generalizing t with
  | nil => exact .inl fun before w after h => absurd h (by simp)
  | cons w ws ih =>
    rcases ih (w.perform t).1 with hrest | ⟨before, v, after, text, rfl, hleaves, hlast⟩
    · by_cases hfirst : ∃ text, w.LeavesAt t l text
      · obtain ⟨text, hleaves⟩ := hfirst
        exact .inr ⟨[], w, ws, text, rfl, hleaves, hrest⟩
      · exact .inl (isUntouched_cons.2 ⟨not_exists.1 hfirst, hrest⟩)
    · exact .inr ⟨w :: before, v, after, text, rfl, hleaves, hlast⟩

theorem afterAll_append (t : FileTree) (before after : List Writing) :
    t.afterAll (before ++ after) = (t.afterAll before).afterAll after := List.foldl_append

/-- What a step leaves is held as long as no step leaves anything else in its place. -/
theorem held_afterAll (hleaves : w.LeavesAt t l text) (hlast : (w.perform t).1.IsUntouched ws l) :
    (t.afterAll (w :: ws)).file? l = some (.text text) ∧
      (t.afterAll (w :: ws)).read w.path = .ok (.text text) := by
  obtain ⟨rfl, hleft⟩ := hleaves
  have hfile : (t.afterAll (w :: ws)).file? w.place = some (.text text) := by
    rw [afterAll_cons, file?_of_isUntouched hlast, w.file?_perform, hleft]
    exact Function.update_self ..
  refine ⟨hfile, ?_⟩
  obtain ⟨hnul, k, hk, -⟩ := read_eq_ok.1 (Writing.read_perform hleft)
  have hplace : k = w.place := locate_eq_resolved hk
  rw [file?_eq_some, ← hplace] at hfile
  exact read_eq_ok.2 ⟨hnul, k, locate_of_grows (grows_afterAll _ ws) hk, hfile⟩

end FileTree

/-- Writing texts one after another in a tree without links. Each step changes the file at its path
and no other one, or else no file at all. Where it is done, the file holds what was to be written,
with the other address in the place of the recorded one; if there are no bytes for that, the file is
empty and the step has failed. At no point does a file stand below another one. And in the end every
file holds what the last step has left at its place, if there is one, and otherwise what it held. -/
theorem writings_framed {t : FileTree} (ht : t.IsSound) (ws : List Writing) :
    (∀ before w after, ws = before ++ w :: after →
      w.ComesTo (t.afterAll before) (w.perform (t.afterAll before))) ∧
    (∀ before after, ws = before ++ after → (t.afterAll before).IsSeparate) ∧
    ∀ l, t.IsUntouched ws l ∧ (t.afterAll ws).file? l = t.file? l ∨
      ∃ before w after text, ws = before ++ w :: after ∧
        w.LeavesAt (t.afterAll before) l text ∧
        (w.perform (t.afterAll before)).1.IsUntouched after l ∧
        (t.afterAll ws).file? l = some (.text text) ∧
        (t.afterAll ws).read w.path = .ok (.text text) := by
  refine ⟨fun before w after _ => w.comesTo_perform _, fun before after _ => ?_, fun l => ?_⟩
  · exact (FileTree.isSound_afterAll ht before).isSeparate
  · obtain huntouched | ⟨before, w, after, text, rfl, hleaves, hlast⟩ := FileTree.exists_last t ws l
    · exact .inl ⟨huntouched, FileTree.file?_of_isUntouched huntouched⟩
    · rw [FileTree.afterAll_append]
      exact .inr ⟨before, w, after, text, rfl, hleaves, hlast, FileTree.held_afterAll hleaves hlast⟩

/-- A directory with a file in it, which is written by two paths, and then taken for a directory. In
the second text there is half a surrogate pair, in front of a slash, which is replaced. -/
theorem writings_framed_of_two_paths :
    let t : FileTree := ⟨[(["out"], .directory), (["out", "a"], .file (.text "old"))]⟩
    let w : Writing := { path := Path.ofText "/out/new/../a"
                         body := .surrogate 0 :: RawText.ofText "/y"
                         recorded := [.surrogate 0], override := RawText.ofText "b" }
    let ws : List Writing := [{ path := Path.ofText "/out/a", body := RawText.ofText "x" }, w,
      { path := Path.ofText "/out/a/b", body := RawText.ofText "z" }]
    t.IsSound ∧ (∃ before after, ws = before ++ w :: after ∧
      w.ComesTo (t.afterAll before) (w.perform (t.afterAll before))) ∧
    (t.afterAll ws).IsSeparate ∧ (t.afterAll ws).read w.path = .ok (.text "b/y") := by
  intro t w ws
  have ht : t.IsSound := FileTree.isSound_of_entries (by decide)
  obtain ⟨hsteps, hseparate, -⟩ := writings_framed ht ws
  have hread : (t.afterAll ws).read w.path = .ok (.text "b/y") := by decide +kernel
  exact ⟨ht, ⟨_, _, rfl, hsteps [_] w [_] rfl⟩, hseparate ws [] (List.append_nil ws).symm, hread⟩

/-- A file that holds something, and a text for it of half a surrogate pair: the step fails, and the
file holds nothing any more. -/
theorem failed_writing_empties_file :
    let t : FileTree := ⟨[(["a"], .file (.text "x"))]⟩
    let w : Writing := { path := Path.ofText "/a", body := [.surrogate 0] }
    t.IsSound ∧ t.file? ["a"] = some (.text "x") ∧ (w.perform t).2 = some .notEncodable ∧
      (w.perform t).1.file? ["a"] = some (.text []) := by
  intro t w
  exact ⟨FileTree.isSound_of_entries (by decide), rfl, rfl, rfl⟩

end TestScribe
