import WebDocs.Files.Disk

namespace WebDocs.Disk

/-- A file can have the name: it has octets, and zero is none of them. -/
def Named (path : FilePath) : Prop :=
  ∃ octets, Text.Utf8.encodeName path.text.toList = .ok octets ∧ 0 ∉ octets

variable {disk : Disk} {path : FilePath} {place start parts : List FileName} {entry : Entry}
  {found : Option Entry} {bytes : List UInt8}

theorem entry?_put_self (h : place ≠ []) : Disk.entry? (disk.put place entry) place = some entry := by
  have hplace : place.isEmpty = false := by simpa using h
  simp [ entry?, put, hplace]

theorem entry?_put_of_ne {other : List FileName} (h : other ≠ place) :
    Disk.entry? (disk.put place entry) other = disk.entry? other := by
  have hentries : (disk.put place entry).entries.find? (·.1 = other) =
      disk.entries.find? (·.1 = other) := by
    rw [put, List.find?_cons_of_neg (by simpa using h.symm), List.find?_filter]
    refine congrArg (List.find? · disk.entries) (funext fun e => ?_)
    by_cases he : e.1 = other
    · simp [he, h]
    · simp [he]
  rw [ entry?, entry?, hentries]

/-- The way down does not fail because of the octets of a name. -/
theorem cause_of_descend {cause : FileError} (h : disk.descend start parts = .error cause) :
    cause = .nameTooLong ∨ cause = .missing ∨ cause = .notDirectory := by
  fun_induction Disk.descend disk start parts <;> simp_all

/-- What is found at the end is what the disk has at that place. -/
theorem entry?_of_descend (h : disk.descend start parts = .ok (place, found)) :
    disk.entry? place = found := by
  fun_induction Disk.descend disk start parts with
  | case1 place =>
    cases h
    rfl
  | case2 | case4 | case6 => cases h
  | case3 place part _ he | case5 place part _ bytes he =>
    cases h
    exact he
  | case7 place part _ rest he ih => exact ih h

/-- The way down leads through directories. So it stays the same when another thing is put at its end,
if that is no directory. -/
theorem descend_put (h : disk.descend start parts = .ok (place, found))
    (hf : found ≠ some .directory) :
    (disk.put place entry).descend start parts = .ok (place, some entry) := by
  have hplace := entry?_of_descend h
  have hne : place ≠ [] := by
    rintro rfl
    exact hf hplace.symm
  fun_induction Disk.descend disk start parts with
  | case1 =>
    cases h
    rw [descend, entry?_put_self hne]
  | case2 | case4 | case6 => cases h
  | case3 start part hl he | case5 start part hl bytes he =>
    cases h
    rw [descend.eq_def]
    cases entry <;> simp [hl, entry?_put_self hne, descend]
  | case7 start part hl rest he ih =>
    have hput : Disk.entry? (disk.put place entry) (below start part) = some .directory := by
      rw [entry?_put_of_ne, he]
      rintro rfl
      exact hf (hplace.symm.trans he)
    rw [descend.eq_def]
    simp only [hl, hput]
    exact ih h

theorem descend_concat {part : FileName} {above : List FileName}
    (h : disk.descend start parts = .ok (above, some .directory)) :
    disk.descend start (parts ++ [part]) = disk.descend above [part] := by
  fun_induction Disk.descend disk start parts with
  | case1 =>
    obtain ⟨rfl, -⟩ := Prod.mk.inj (Except.ok.inj h)
    rfl
  | case2 | case3 | case4 | case5 | case6 => cases h
  | case7 start other hl rest he ih =>
    rw [← ih h, List.cons_append, descend.eq_def]
    simp [hl, he]

theorem descend_singleton (disk : Disk) (above : List FileName) (part : FileName) :
    disk.descend above [part] = .error .nameTooLong ∨
      ∃ found, disk.descend above [part] = .ok (below above part, found) := by
  rw [descend.eq_def]
  by_cases hl : isLong part = true
  · exact .inl (by simp [hl])
  · right
    cases he : disk.entry? (below above part) with
    | none => exact ⟨none, by simp [hl, he]⟩
    | some entry =>
      refine ⟨some entry, ?_⟩
      cases entry <;> simp [hl, he, descend]

/-- The directory that a name starts from. -/
def origin (disk : Disk) (path : FilePath) : List FileName :=
  if path.root = "" then disk.working else []

theorem find_eq_nulInName_iff :
    disk.find path = .error .nulInName ↔
      ∃ octets, Text.Utf8.encodeName path.text.toList = .ok octets ∧ 0 ∈ octets := by
  rw [find]
  split
  next h => simp [h]
  next octets h =>
    have hzero : (∃ found, Text.Utf8.encodeName path.text.toList = .ok found ∧ 0 ∈ found) ↔
        octets.contains 0 = true := by
      simp [h]
    rw [hzero]
    split
    next hc => exact iff_of_true rfl hc
    next hc =>
      refine iff_of_false (fun he => ?_) hc
      split at he
      next => cases he
      next => rcases cause_of_descend he with e | e | e <;> cases e

theorem find_eq_ok_iff {result : List FileName × Option Entry} :
    disk.find path = .ok result ↔
      (∃ octets, Text.Utf8.encodeName path.text.toList = .ok octets ∧ 0 ∉ octets ∧
        octets.length < 4096) ∧
      disk.descend (disk.origin path) (path.parts.map Text.fileName) = .ok result := by
  rw [find]
  split
  next h => simp [h]
  next octets h =>
    simp only [h, Except.ok.injEq, exists_eq_left']
    split
    next hc => simp_all
    next hc =>
      split
      next hl => exact iff_of_false nofun fun h' => absurd h'.1.2 (Nat.not_lt.2 hl)
      next hl => exact (and_iff_right ⟨by simpa using hc, Nat.lt_of_not_le hl⟩).symm

theorem find_put (h : disk.find path = .ok (place, found)) (hf : found ≠ some .directory) :
    (disk.put place entry).find path = .ok (place, some entry) := by
  obtain ⟨hn, hd⟩ := find_eq_ok_iff.1 h
  exact find_eq_ok_iff.2 ⟨hn, descend_put hd hf⟩

theorem find_of_descend (disk : Disk) (hn : Named path) :
    disk.find path = .error .nameTooLong ∨
      disk.find path = disk.descend (disk.origin path) (path.parts.map Text.fileName) := by
  obtain ⟨octets, ho, hzero⟩ := hn
  simp only [find, ho]
  rw [if_neg (by simpa using hzero)]
  split
  · exact .inl rfl
  · exact .inr rfl

/-- In a directory that is there, every name leads to a place, unless it is too long. -/
theorem find_of_parent (hp : disk.find path.parent = .ok (start, some .directory))
    (hn : Named path) :
    disk.find path = .error .nameTooLong ∨ ∃ place found, disk.find path = .ok (place, found) := by
  obtain ⟨-, habove⟩ := find_eq_ok_iff.1 hp
  obtain hlong | hfind := find_of_descend disk hn
  · exact .inl hlong
  · rw [hfind]
    obtain hparts | ⟨parts, part, hparts⟩ := path.parts.eq_nil_or_concat
    · exact .inr ⟨_, _, by rw [hparts, List.map_nil, descend]⟩
    · have hparent : path.parent.parts = parts := by simp [FilePath.parent, hparts]
      rw [hparent] at habove
      have hlast := descend_singleton disk start (Text.fileName part)
      have horigin : disk.origin path.parent = disk.origin path := rfl
      rw [hparts, List.concat_eq_append, List.map_append, List.map_singleton, ← horigin,
        descend_concat habove]
      exact hlast.imp_right fun ⟨found, h⟩ => ⟨_, found, h⟩

theorem isDirectory_eq_true_iff :
    disk.isDirectory path = .ok true ↔ ∃ place, disk.find path = .ok (place, some .directory) := by
  rw [isDirectory]
  split
  next place found h => simp [h]
  next h => simp [h]
  next cause _ h => simp [h]

/-- Whether a name that is too long is that of a directory is not answered. -/
theorem isDirectory_of_isLong {part : Text} {rest : List Text} (hn : Named path)
    (hp : path.parts = part :: rest) (hl : isLong part.fileName = true) :
    disk.isDirectory path = .error .nameTooLong := by
  have hfind : disk.find path = .error .nameTooLong := by
    obtain hfind | hfind := find_of_descend disk hn
    · exact hfind
    · rw [hfind, hp, List.map_cons, descend.eq_def]
      exact if_pos hl
  rw [isDirectory, hfind]

theorem isDirectory_cases (disk : Disk) (path : FilePath) :
    disk.isDirectory path = .ok true ∨ disk.isDirectory path = .ok false ∨
      disk.isDirectory path = .error .nameTooLong := by
  rw [isDirectory]
  split
  next place found h => by_cases hf : found = some .directory <;> simp [hf]
  next => simp
  next => simp

theorem makeDirectory_eq_ok_iff {made : Disk} : disk.makeDirectory path = .ok made ↔
    ∃ place, disk.find path = .ok (place, none) ∧ made = disk.put place .directory := by
  rw [makeDirectory]
  cases disk.find path with
  | error cause => simp [bind, Except.bind]
  | ok result =>
    obtain ⟨place, found⟩ := result
    cases found with
    | none => simp [bind, Except.bind, pure, Except.pure, eq_comm]
    | some entry => simp [bind, Except.bind, throw, throwThe, MonadExceptOf.throw]

theorem isDirectory_of_makeDirectory {made : Disk} (h : disk.makeDirectory path = .ok made) :
    made.isDirectory path = .ok true := by
  obtain ⟨place, hf, rfl⟩ := makeDirectory_eq_ok_iff.1 h
  exact isDirectory_eq_true_iff.2 ⟨place, find_put hf (by simp)⟩

theorem isDirectory_of_unlessDirectory {cause : FileError}
    (h : (disk.unlessDirectory path cause).fault = none) : disk.isDirectory path = .ok true := by
  rw [unlessDirectory] at h
  cases hd : disk.isDirectory path with
  | error cause => simp [hd] at h
  | ok isThere =>
    cases isThere with
    | true => rfl
    | false => simp [hd] at h

/-- A directory is there after it was made without a fault. -/
theorem isDirectory_of_makingDirectories (h : (disk.makingDirectories path).fault = none) :
    (disk.makingDirectories path).disk.isDirectory path = .ok true := by
  fun_induction Disk.makingDirectories disk path with
  | case1 _ made hm | case4 _ _ _ _ _ made hm _ => exact isDirectory_of_makeDirectory hm
  | case2 | case5 => simp at h
  | case3 _ _ _ above hf _ => simp [above, h] at hf
  | case6 | case7 => exact isDirectory_of_unlessDirectory h

theorem read_eq_nulInName_iff :
    disk.read path = .error .nulInName ↔ disk.find path = .error .nulInName := by
  rw [read]
  cases disk.find path with
  | error cause => simp [bind, Except.bind]
  | ok result =>
    obtain ⟨place, found⟩ := result
    cases found with
    | none => simp [bind, Except.bind, throw, throwThe, MonadExceptOf.throw]
    | some entry =>
      cases entry <;>
        simp [bind, Except.bind, throw, throwThe, MonadExceptOf.throw, pure, Except.pure]

theorem read_of_find (h : disk.find path = .ok (place, some (.file bytes))) :
    disk.read path = .ok bytes := by
  rw [read, h]
  rfl

theorem write_of_find (h : disk.find path = .ok (place, found)) (hf : found ≠ some .directory) :
    disk.write path bytes = .ok (disk.put place (.file bytes)) := by
  rw [write, h]
  match found, hf with
  | none, _ | some (.file _), _ => rfl
  | some .directory, hf => exact absurd rfl hf

theorem write_eq_ok_iff {written : Disk} : disk.write path bytes = .ok written ↔
    ∃ place found, disk.find path = .ok (place, found) ∧ found ≠ some .directory ∧
      written = disk.put place (.file bytes) := by
  constructor
  · intro h
    cases hfind : disk.find path with
    | error cause =>
      rw [write, hfind] at h
      cases h
    | ok result =>
      obtain ⟨place, found⟩ := result
      by_cases hf : found = some .directory
      · rw [write, hfind, hf] at h
        cases h
      · rw [write_of_find hfind hf] at h
        exact ⟨place, found, rfl, hf, (Except.ok.inj h).symm⟩
  · rintro ⟨place, found, hfind, hf, rfl⟩
    exact write_of_find hfind hf

theorem read_of_write {written : Disk} (h : disk.write path bytes = .ok written) :
    written.read path = .ok bytes := by
  obtain ⟨place, found, hfind, hf, rfl⟩ := write_eq_ok_iff.1 h
  exact read_of_find (find_put hfind hf)

/-- In a directory that is there, a file is written unless its name is that of a directory, or is too
long. -/
theorem exists_write_iff (hp : disk.isDirectory path.parent = .ok true) (hn : Named path) :
    (∃ written, disk.write path bytes = .ok written) ↔ disk.isDirectory path = .ok false := by
  obtain ⟨start, hparent⟩ := isDirectory_eq_true_iff.1 hp
  constructor
  · rintro ⟨written, h⟩
    obtain ⟨place, found, hfind, hf, -⟩ := write_eq_ok_iff.1 h
    simp [isDirectory, hfind, hf]
  · intro h
    obtain hlong | ⟨place, found, hfind⟩ := find_of_parent hparent hn
    · simp [isDirectory, hlong] at h
    · have hf : found ≠ some .directory := by simpa [isDirectory, hfind] using h
      exact ⟨_, write_eq_ok_iff.2 ⟨place, found, hfind, hf, rfl⟩⟩

/-- A place for a file, as a caller sees it: the directory above it is there or can be made, and no
directory is at the name. -/
structure Offers (disk : Disk) (path : FilePath) : Prop where
  above : (disk.makingDirectories path.parent).fault = none
  free : disk.isDirectory path ≠ .ok true

/-- The disk takes a file of the name: the directory above it is there or can be made; and once it is
there, the name is not too long and no directory is at the name. A name whose last part is two dots is
that of a directory then. -/
structure Takes (disk : Disk) (path : FilePath) : Prop where
  above : (disk.makingDirectories path.parent).fault = none
  free : (disk.makingDirectories path.parent).disk.isDirectory path = .ok false

theorem saving_of_write {written : Disk}
    (ha : (disk.makingDirectories path.parent).fault = none)
    (hw : (disk.makingDirectories path.parent).disk.write path bytes = .ok written) :
    disk.saving path bytes = ⟨written, none⟩ := by
  simp [saving, ha, hw]

theorem write_of_saving (h : (disk.saving path bytes).fault = none) :
    (disk.makingDirectories path.parent).fault = none ∧
      ∃ written, (disk.makingDirectories path.parent).disk.write path bytes = .ok written := by
  have ha : (disk.makingDirectories path.parent).fault = none := by
    cases hf : (disk.makingDirectories path.parent).fault with
    | none => rfl
    | some fault => simp [saving, hf] at h
  cases hw : (disk.makingDirectories path.parent).disk.write path bytes with
  | error cause => simp [saving, ha, hw] at h
  | ok written => exact ⟨ha, written, rfl⟩

theorem saving_fault_eq_none_iff (hn : Named path) :
    (disk.saving path bytes).fault = none ↔ disk.Takes path := by
  constructor
  · intro h
    obtain ⟨ha, hw⟩ := write_of_saving h
    exact ⟨ha, (exists_write_iff (isDirectory_of_makingDirectories ha) hn).1 hw⟩
  · rintro ⟨ha, hf⟩
    obtain ⟨written, hw⟩ := (exists_write_iff (isDirectory_of_makingDirectories ha) hn).2 hf
    rw [saving_of_write ha hw]

/-- A file that is not written changes nothing but the directories above it. -/
theorem saving_of_refused {fault : FileFault}
    (ha : (disk.makingDirectories path.parent).fault = none)
    (hf : (disk.saving path bytes).fault = some fault) :
    (disk.saving path bytes).disk = (disk.makingDirectories path.parent).disk := by
  cases hw : (disk.makingDirectories path.parent).disk.write path bytes with
  | error cause => simp [saving, ha, hw]
  | ok written =>
    rw [saving_of_write ha hw] at hf
    cases hf

theorem save_of_saving (h : (disk.saving path bytes).fault = none) :
    disk.save path bytes = .ok (disk.saving path bytes).disk := by
  rw [save, Effect.result, h]

theorem read_of_saving (h : (disk.saving path bytes).fault = none) :
    (disk.saving path bytes).disk.read path = .ok bytes := by
  obtain ⟨ha, written, hw⟩ := write_of_saving h
  rw [saving_of_write ha hw]
  exact read_of_write hw

end WebDocs.Disk
