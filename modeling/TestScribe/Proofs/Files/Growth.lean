import TestScribe.Files.Write
import TestScribe.Proofs.Phases

/-!
What writing does to any tree. Entries never change their kind, so a path that leads somewhere goes
on leading there (`locate_of_grows`); the directories that are made on the way change nothing that
was there (`makeWay_keeps`); and a file that has been written holds its text until the same place is
written again (`read_write`, `read_write_of_ne`).
-/

namespace TestScribe

namespace FileTree

/-- Every entry is still there, a directory as a directory and a file as a file. -/
def Grows (t s : FileTree) : Prop :=
  ∀ l e, t.at? l = some e → ∃ f, s.at? l = some f ∧ (f = .directory ↔ e = .directory)

def Keeps (t s : FileTree) : Prop := ∀ l e, t.at? l = some e → s.at? l = some e

variable {t s u : FileTree} {l dir : Location} {name : Text} {parts : List Text}

theorem Keeps.refl (t : FileTree) : Keeps t t := fun _ _ h => h

theorem Keeps.trans (h : Keeps t s) (h' : Keeps s u) : Keeps t u :=
  fun l e he => h' l e (h l e he)

theorem Keeps.grows (h : Keeps t s) : Grows t s :=
  fun l e he => ⟨e, h l e he, Iff.rfl⟩

theorem Grows.trans (h : Grows t s) (h' : Grows s u) : Grows t u := by
  intro l e he
  obtain ⟨f, hf, hfe⟩ := h l e he
  obtain ⟨g, hg, hgf⟩ := h' l f hf
  exact ⟨g, hg, hgf.trans hfe⟩

@[simp] theorem at?_nil (t : FileTree) : t.at? [] = some .directory := by simp [at?]

theorem isDirectory_iff : t.isDirectory l = true ↔ t.at? l = some .directory := by
  simp [isDirectory]

theorem ne_nil_of_not_directory (h : t.isDirectory l = false) : l ≠ [] := by
  rintro rfl
  simp [isDirectory] at h

theorem Grows.isDirectory (h : Grows t s) (hd : t.isDirectory l = true) :
    s.isDirectory l = true := by
  obtain ⟨f, hf, hfe⟩ := h l _ (isDirectory_iff.1 hd)
  rw [isDirectory_iff, hf, hfe.2 rfl]

theorem keeps_put {e : Entry} (h : t.at? l = none) : Keeps t (t.put l e) := by
  intro k f hk
  have hl : l ≠ [] := by rintro rfl; simp at h
  have hne : k ≠ l := by rintro rfl; simp [h] at hk
  rw [at?_put t hl, if_neg hne, hk]

theorem grows_put_file {c : FileContent} (h : t.isDirectory l = false) :
    Grows t (t.put l (.file c)) := by
  intro k e hk
  rw [at?_put t (ne_nil_of_not_directory h)]
  by_cases hkl : k = l
  · subst hkl
    have he : e ≠ .directory := by rintro rfl; simp [isDirectory, hk] at h
    exact ⟨.file c, if_pos rfl, by simp [he]⟩
  · exact ⟨e, by rw [if_neg hkl, hk], Iff.rfl⟩

/-! Following components. -/

theorem place_eq_ok : t.place dir name = .ok l ↔ t.isDirectory dir = true ∧
    (name = "..".toList ∧ l = dir.dropLast ∨
      name ≠ "..".toList ∧ isTooLong name = false ∧ l = dir ++ [name]) := by
  unfold place
  cases hd : t.isDirectory dir with
  | false => simp
  | true =>
    rw [Bool.not_true, if_neg Bool.false_ne_true]
    by_cases hn : name = "..".toList
    · rw [if_pos hn, Except.ok.injEq, eq_comm]
      exact ⟨fun h => ⟨rfl, .inl ⟨hn, h⟩⟩, fun h => h.2.elim And.right fun h => absurd hn h.1⟩
    · rw [if_neg hn]
      cases ht : isTooLong name with
      | true => simpa using fun h => absurd h hn
      | false =>
        rw [if_neg Bool.false_ne_true, Except.ok.injEq, eq_comm]
        exact ⟨fun h => ⟨rfl, .inr ⟨hn, rfl, h⟩⟩,
          fun h => h.2.elim (fun h => absurd h.1 hn) fun h => h.2.2⟩

theorem place_of_grows (h : Grows t s) (hl : t.place dir name = .ok l) :
    s.place dir name = .ok l := by
  rw [place_eq_ok] at hl ⊢
  exact ⟨h.isDirectory hl.1, hl.2⟩

theorem enter_eq_ok : t.enter dir name = .ok l ↔
    t.place dir name = .ok l ∧ (t.at? l).isSome = true := by
  unfold enter
  rw [Except.bind_eq_ok]
  constructor
  · rintro ⟨k, hk, h⟩
    split at h
    · rename_i hs
      cases h
      exact ⟨hk, hs⟩
    · cases h
  · rintro ⟨hk, hs⟩
    exact ⟨l, hk, if_pos hs⟩

theorem enter_of_grows (h : Grows t s) (hl : t.enter dir name = .ok l) :
    s.enter dir name = .ok l := by
  rw [enter_eq_ok] at hl ⊢
  obtain ⟨e, he⟩ := Option.isSome_iff_exists.1 hl.2
  obtain ⟨f, hf, -⟩ := h l e he
  exact ⟨place_of_grows h hl.1, by simp [hf]⟩

theorem follow_of_grows (h : Grows t s) (hl : parts.foldlM t.enter dir = .ok l) :
    parts.foldlM s.enter dir = .ok l := by
  induction parts generalizing dir with
  | nil => simpa using hl
  | cons name rest ih =>
    rw [List.foldlM_cons, Except.bind_eq_ok] at hl ⊢
    obtain ⟨k, hk, hr⟩ := hl
    exact ⟨k, enter_of_grows h hk, ih hr⟩

theorem locate_of_grows (h : Grows t s) (hl : t.locate parts = .ok l) :
    s.locate parts = .ok l := follow_of_grows h hl

theorem eq_append_of_follow (hn : "..".toList ∉ parts) (hl : parts.foldlM t.enter dir = .ok l) :
    l = dir ++ parts := by
  induction parts generalizing dir with
  | nil => simpa [pure, Except.pure, eq_comm] using hl
  | cons name rest ih =>
    rw [List.mem_cons, not_or] at hn
    rw [List.foldlM_cons, Except.bind_eq_ok] at hl
    obtain ⟨k, hk, hr⟩ := hl
    have hk' : k = dir ++ [name] := by
      rcases (place_eq_ok.1 (enter_eq_ok.1 hk).1).2 with ⟨he, -⟩ | ⟨-, -, he⟩
      · exact absurd he.symm hn.1
      · exact he
    have := ih hn.2 hr
    simpa [hk'] using this

theorem locate_append (t : FileTree) (a b : List Text) :
    t.locate (a ++ b) = t.locate a >>= fun dir => b.foldlM t.enter dir := by
  simp [locate]

theorem locate_append_inj {base a b : List Text} (ha : "..".toList ∉ a) (hb : "..".toList ∉ b)
    (h : t.locate (base ++ a) = .ok l) (h' : t.locate (base ++ b) = .ok l) : a = b := by
  rw [locate_append, Except.bind_eq_ok] at h h'
  obtain ⟨d, hd, hda⟩ := h
  obtain ⟨d', hd', hdb⟩ := h'
  obtain rfl : d = d' := by simpa [hd] using hd'
  have h1 := eq_append_of_follow ha hda
  have h2 := eq_append_of_follow hb hdb
  exact List.append_cancel_left (h1.symm.trans h2)

/-! Looking for an entry. -/

theorem find_eq_ok {e : Entry} :
    t.find parts = .ok (l, e) ↔ t.locate parts = .ok l ∧ t.at? l = some e := by
  unfold find
  rw [Except.bind_eq_ok]
  constructor
  · rintro ⟨k, hk, h⟩
    split at h
    · rename_i f hf
      cases h
      exact ⟨hk, hf⟩
    · cases h
  · rintro ⟨hl, he⟩
    exact ⟨l, hl, by rw [he]⟩

theorem find_of_grows {e : Entry} (hg : Grows t s) (h : t.find parts = .ok (l, e)) :
    ∃ f, s.find parts = .ok (l, f) ∧ (f = .directory ↔ e = .directory) := by
  obtain ⟨hl, he⟩ := find_eq_ok.1 h
  obtain ⟨f, hf, hfe⟩ := hg l e he
  exact ⟨f, find_eq_ok.2 ⟨locate_of_grows hg hl, hf⟩, hfe⟩

theorem hasFile_iff : t.hasFile parts = .ok true ↔
    hasNul parts = false ∧ ∃ l c, t.find parts = .ok (l, .file c) := by
  unfold hasFile
  cases hasNul parts with
  | true => simp
  | false =>
    rcases hf : t.find parts with c | ⟨l, _ | c⟩
    · cases c <;> simp
    · simp
    · simp

theorem hasDirectory_iff : t.hasDirectory parts = .ok true ↔
    hasNul parts = false ∧ ∃ l, t.find parts = .ok (l, .directory) := by
  unfold hasDirectory
  cases hasNul parts with
  | true => simp
  | false =>
    rcases hf : t.find parts with c | ⟨l, _ | c⟩
    · cases c <;> simp
    · simp
    · simp

theorem hasFile_of_grows (hg : Grows t s) (h : t.hasFile parts = .ok true) :
    s.hasFile parts = .ok true := by
  obtain ⟨hnul, l, c, hf⟩ := hasFile_iff.1 h
  obtain ⟨f, hf', hfe⟩ := find_of_grows hg hf
  cases f with
  | directory => cases hfe.1 rfl
  | file c' => exact hasFile_iff.2 ⟨hnul, l, c', hf'⟩

theorem hasDirectory_of_grows (hg : Grows t s) (h : t.hasDirectory parts = .ok true) :
    s.hasDirectory parts = .ok true := by
  obtain ⟨hnul, l, hf⟩ := hasDirectory_iff.1 h
  obtain ⟨f, hf', hfe⟩ := find_of_grows hg hf
  obtain rfl := hfe.2 rfl
  exact hasDirectory_iff.2 ⟨hnul, l, hf'⟩

theorem hasDirectory_of_hasFile (h : t.hasFile parts = .ok true) :
    t.hasDirectory parts = .ok false := by
  obtain ⟨hnul, l, c, hf⟩ := hasFile_iff.1 h
  simp [hasDirectory, hnul, hf]

/-! Making directories. -/

theorem makeDirectory_eq_ok (h : t.makeDirectory parts = .ok s) :
    ∃ dir name, t.isDirectory dir = true ∧ t.at? (dir ++ [name]) = none ∧
      s = t.put (dir ++ [name]) .directory := by
  unfold makeDirectory at h
  split at h
  · cases h
  · rename_i name hname
    rw [Except.bind_eq_ok] at h
    obtain ⟨dir, hdir, h⟩ := h
    rw [Except.bind_eq_ok] at h
    obtain ⟨l, hl, h⟩ := h
    split at h
    · cases h
    · rename_i hfree
      simp only [Bool.or_eq_true, decide_eq_true_eq, not_or, Bool.not_eq_true,
        Option.isSome_eq_false_iff, Option.isNone_iff_eq_none] at hfree
      obtain ⟨hd, hp⟩ := place_eq_ok.1 hl
      rcases hp with ⟨he, -⟩ | ⟨-, -, rfl⟩
      · exact absurd he hfree.1
      · cases h
        exact ⟨dir, name, hd, hfree.2, rfl⟩

theorem makeWay_of_notFound {slashes : Nat} {back : List Text}
    (h : t.makeDirectory (name :: back).reverse = .error .notFound) :
    makeWay slashes t (name :: back) =
      match makeWay slashes t back with
      | (s, some e) => (s, some e)
      | (s, none) =>
        let a := s.settled (name :: back).reverse (s.makeDirectory (name :: back).reverse)
        (a.1, a.2.map fun c => ⟨c, ⟨slashes, (name :: back).reverse⟩⟩) := by
  rcases hback : makeWay slashes t back with ⟨s, _ | e⟩
  · simp only [makeWay, h, hback]
  · simp only [makeWay, h, hback]

theorem makeWay_of_ne {slashes : Nat} {back : List Text}
    (h : t.makeDirectory (name :: back).reverse ≠ .error .notFound) :
    makeWay slashes t (name :: back) =
      let a := t.settled (name :: back).reverse (t.makeDirectory (name :: back).reverse)
      (a.1, a.2.map fun c => ⟨c, ⟨slashes, (name :: back).reverse⟩⟩) := by
  rw [makeWay]
  split
  · exact absurd ‹_› h
  · rfl

theorem makeWay_induction {P : FileTree → Prop} (slashes : Nat)
    (step : ∀ t parts s, P t → t.makeDirectory parts = .ok s → P s) (back : List Text) :
    ∀ t, P t → P (makeWay slashes t back).1 := by
  have settled_fst : ∀ t parts, P t → P (t.settled parts (t.makeDirectory parts)).1 := by
    intro t parts ht
    cases hm : t.makeDirectory parts with
    | ok s => exact step t parts s ht hm
    | error c =>
      cases c <;> simp only [settled] <;> (try split) <;> exact ht
  induction back with
  | nil => exact fun t ht => ht
  | cons name up ih =>
    intro t ht
    have hs := ih t ht
    by_cases hm : t.makeDirectory (name :: up).reverse = .error .notFound
    · rw [makeWay_of_notFound hm]
      cases hw : makeWay slashes t up with
      | mk s e =>
        rw [hw] at hs
        cases e with
        | none => exact settled_fst s _ hs
        | some e => exact hs
    · rw [makeWay_of_ne hm]
      exact settled_fst t _ ht

theorem makeWay_keeps (slashes : Nat) (t : FileTree) (back : List Text) :
    Keeps t (makeWay slashes t back).1 := by
  refine makeWay_induction (P := Keeps t) slashes ?_ back t (Keeps.refl t)
  intro u parts s hu hs
  obtain ⟨dir, name, -, hnone, rfl⟩ := makeDirectory_eq_ok hs
  exact hu.trans (keeps_put hnone)

/-! Writing files. -/

theorem save_eq_ok {body : Text} (h : t.save parts body = .ok s) :
    hasNul parts = false ∧ ∃ dir name l, parts = parts.dropLast ++ [name] ∧
      t.locate parts.dropLast = .ok dir ∧ t.place dir name = .ok l ∧
      t.isDirectory l = false ∧ s = t.put l (.file (.text body)) := by
  unfold save at h
  split at h
  · cases h
  · rename_i hnul
    split at h
    · cases h
    · rename_i name hname
      rw [Except.bind_eq_ok] at h
      obtain ⟨dir, hdir, h⟩ := h
      rw [Except.bind_eq_ok] at h
      obtain ⟨l, hl, h⟩ := h
      split at h
      · cases h
      · rename_i hd
        cases h
        obtain ⟨ys, rfl⟩ := List.getLast?_eq_some_iff.1 hname
        exact ⟨by simpa using hnul, dir, name, l, by simp, hdir, hl, by simpa using hd, rfl⟩

theorem locate_save {body : Text} (h : t.save parts body = .ok s) : hasNul parts = false ∧
    ∃ l, t.isDirectory l = false ∧ s = t.put l (.file (.text body)) ∧ s.locate parts = .ok l := by
  obtain ⟨hnul, dir, name, l, hparts, hdir, hl, hd, rfl⟩ := save_eq_ok h
  have hg := grows_put_file (c := .text body) hd
  refine ⟨hnul, l, hd, rfl, ?_⟩
  rw [hparts, locate_append, Except.bind_eq_ok]
  refine ⟨dir, locate_of_grows hg hdir, ?_⟩
  rw [List.foldlM_cons, Except.bind_eq_ok]
  refine ⟨l, enter_eq_ok.2 ⟨place_of_grows hg hl, ?_⟩, rfl⟩
  simp [at?_put t (ne_nil_of_not_directory hd)]

/-- To write is to make directories, if the way to them can be taken at all, and then, unless that
has failed, to save the text. -/
theorem write_eq_save (t : FileTree) (p : Path) (body : Text) : ∃ u,
    (u = t ∨ u = (makeWay p.slashes t p.parent.parts.reverse).1) ∧
      ((∃ e, t.write p body = (u, some e)) ∨
        ∃ s, t.write p body = (s, none) ∧ u.save p.parts body = .ok s) := by
  unfold write
  split
  · exact ⟨t, .inl rfl, .inl ⟨_, rfl⟩⟩
  · split
    · rename_i s e hs
      exact ⟨s, .inr (by rw [hs]), .inl ⟨e, rfl⟩⟩
    · rename_i s hs
      refine ⟨s, .inr (by rw [hs]), ?_⟩
      cases hsave : s.save p.parts body with
      | ok u => exact .inr ⟨u, rfl, rfl⟩
      | error c => exact .inl ⟨_, rfl⟩

/-- A write that fails has changed nothing that was there. One that succeeds has put its text at the
location to which its path leads now, and has changed nothing else that was there. -/
theorem write_cases (t : FileTree) (p : Path) (body : Text) :
    (∃ e, (t.write p body).2 = some e ∧ Keeps t (t.write p body).1) ∨
    (∃ u l, (t.write p body).2 = none ∧ hasNul p.parts = false ∧ Keeps t u ∧
      u.isDirectory l = false ∧ (t.write p body).1 = u.put l (.file (.text body)) ∧
      (u.put l (.file (.text body))).locate p.parts = .ok l) := by
  obtain ⟨u, hu, hwrite⟩ := write_eq_save t p body
  have hk : Keeps t u := by
    rcases hu with rfl | rfl
    · exact Keeps.refl _
    · exact makeWay_keeps _ _ _
  rcases hwrite with ⟨e, hwrite⟩ | ⟨s, hwrite, hsave⟩
  · rw [hwrite]
    exact .inl ⟨e, rfl, hk⟩
  · obtain ⟨hnul, l, hd, rfl, hat⟩ := locate_save hsave
    rw [hwrite]
    exact .inr ⟨u, l, rfl, hnul, hk, hd, rfl, hat⟩

theorem write_grows (t : FileTree) (p : Path) (body : Text) : Grows t (t.write p body).1 := by
  rcases write_cases t p body with ⟨e, -, hk⟩ | ⟨u, l, -, -, hk, hd, hs, -⟩
  · exact hk.grows
  · rw [hs]
    exact hk.grows.trans (grows_put_file hd)

theorem read_eq_ok {p : Path} {c : FileContent} : t.read p = .ok c ↔
    hasNul p.parts = false ∧ ∃ l, t.locate p.parts = .ok l ∧ t.at? l = some (.file c) := by
  unfold read find
  cases hn : hasNul p.parts with
  | true => simp
  | false =>
    cases hl : t.locate p.parts with
    | error e => simp [bind, Except.bind]
    | ok l =>
      cases ha : t.at? l with
      | none => simp [bind, Except.bind, ha]
      | some e => cases e <;> simp [bind, Except.bind, ha]

theorem read_of_hasFile {p : Path} (h : t.hasFile p.parts = .ok true)
    (hl : t.locate p.parts = .ok l) : ∃ c, t.read p = .ok c ∧ t.at? l = some (.file c) := by
  obtain ⟨hnul, k, c, hf⟩ := hasFile_iff.1 h
  obtain ⟨hk, hat⟩ := find_eq_ok.1 hf
  obtain rfl : k = l := by simpa [hk] using hl
  exact ⟨c, read_eq_ok.2 ⟨hnul, k, hk, hat⟩, hat⟩

theorem read_write {p : Path} {body : Text} (h : (t.write p body).2 = none) :
    (t.write p body).1.read p = .ok (.text body) := by
  rcases write_cases t p body with ⟨e, he, -⟩ | ⟨u, l, -, hnul, -, hd, hs, hat⟩
  · simp [he] at h
  · rw [hs, read_eq_ok]
    refine ⟨hnul, l, hat, ?_⟩
    rw [at?_put u (ne_nil_of_not_directory hd), if_pos rfl]

theorem read_write_of_ne {p q : Path} {body : Text} {c : FileContent} (h : t.read q = .ok c)
    (hne : ∀ l, (t.write p body).1.locate p.parts = .ok l →
      (t.write p body).1.locate q.parts ≠ .ok l) :
    (t.write p body).1.read q = .ok c := by
  obtain ⟨hnul, k, hk, hc⟩ := read_eq_ok.1 h
  have hk' := locate_of_grows (write_grows t p body) hk
  refine read_eq_ok.2 ⟨hnul, k, hk', ?_⟩
  rcases write_cases t p body with ⟨e, -, hkeep⟩ | ⟨u, l, -, -, hkeep, hd, hs, hat⟩
  · exact hkeep k _ hc
  · rw [hs] at hne hk' ⊢
    have hkl : k ≠ l := fun he => hne l hat (he ▸ hk')
    rw [at?_put u (ne_nil_of_not_directory hd), if_neg hkl]
    exact hkeep k _ hc

end FileTree

end TestScribe
