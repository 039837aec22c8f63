import MakeTools.Proofs.Acceptance

/-!
# MakeTools.Proofs.Loading

What comes of loading a Makefile, for every path and every disk.

Loading gives a catalog if the path leads to a file that is read without a
fault and holds UTF-8 (`exists_load_eq_ok_iff`).  Otherwise the Makefile is
missing, or it is there and cannot be read; in both cases a listing is empty.

One thing comes before all that: the system may refuse to look the path up.  It
does so for a path that is too long as a whole, and for one with a name that is
too long and is reached, which means that every place on the way to it is a
directory (`lookup_eq_error_iff`).  A refusal is neither of the two, and a
listing gets nowhere (`list_answers_iff`).
-/

namespace MakeTools

/-! ## Refusals of the system -/

namespace Disk

/-- The place that one component of a path leads to. -/
def Place.enter (place : Place) (part : String) : Place :=
  if part = ".." then place.dropLast else place ++ [part]

/-- Components lead from a place to a name that is too long, through
directories all the way. -/
def ReachesLongName (d : Disk) (place : Place) (parts : List String) : Prop :=
  ∃ before name after, parts = before ++ name :: after ∧ maxNameBytes < name.utf8ByteSize ∧
    ∀ way, way <+: before → d.entryAt? (way.foldl Place.enter place) = some .directory

/-- The system does not look the path up: it is too long as a whole, or it
reaches a name that is too long.  A path with a NUL character leads nowhere
before that is found out. -/
def Refuses (d : Disk) (path : Path) : Prop :=
  '\x00' ∉ (toString path).toList ∧
    (maxPathBytes < (toString path).utf8ByteSize ∨ d.ReachesLongName (d.start path) path.parts)

variable {d : Disk} {path : Path} {r : Refusal}

theorem not_reachesLongName_nil (place : Place) : ¬ d.ReachesLongName place [] := by
  rintro ⟨before, name, after, he, -⟩
  simp at he

/-- A long name is reached from a directory only, at once or behind the next
component. -/
theorem reachesLongName_cons_iff {place : Place} {part : String} {rest : List String} :
    d.ReachesLongName place (part :: rest) ↔
      d.entryAt? place = some .directory ∧
        (maxNameBytes < part.utf8ByteSize ∨ d.ReachesLongName (place.enter part) rest) := by
  constructor
  · rintro ⟨before, name, after, he, hlong, hway⟩
    have hplace : d.entryAt? place = some .directory := hway [] List.nil_prefix
    refine ⟨hplace, ?_⟩
    cases before with
    | nil =>
        obtain ⟨rfl, -⟩ := List.cons.inj he
        exact .inl hlong
    | cons first before =>
        obtain ⟨rfl, rfl⟩ := List.cons.inj he
        refine .inr ⟨before, name, after, rfl, hlong, fun way hw => ?_⟩
        exact hway (part :: way) (List.cons_prefix_cons.2 ⟨rfl, hw⟩)
  · rintro ⟨hplace, hlong | ⟨before, name, after, rfl, hlong, hway⟩⟩
    · refine ⟨[], part, rest, rfl, hlong, fun way hw => ?_⟩
      rw [List.prefix_nil.1 hw]
      exact hplace
    · refine ⟨part :: before, name, after, rfl, hlong, fun way hw => ?_⟩
      cases way with
      | nil => exact hplace
      | cons first way =>
          obtain ⟨rfl, hrest⟩ := List.cons_prefix_cons.1 hw
          exact hway way hrest

theorem walk_eq_error_iff {place : Place} {parts : List String} :
    d.walk path place parts = .error r ↔ r = ⟨path⟩ ∧ d.ReachesLongName place parts := by
  induction parts generalizing place with
  | nil => simp [walk, not_reachesLongName_nil]
  | cons part rest ih =>
      rw [walk, reachesLongName_cons_iff]
      cases d.entryAt? place with
      | none => simp
      | some entry =>
          cases entry with
          | file bytes => simp
          | directory =>
              have hdots : ¬ maxNameBytes < "..".utf8ByteSize := by decide
              by_cases hp : part = ".."
              · subst hp
                simp only [if_true, ih, hdots, Place.enter, false_or, true_and]
              · by_cases hlong : maxNameBytes < part.utf8ByteSize
                · simp [hp, hlong, eq_comm]
                · simp only [hp, hlong, if_false, ih, Place.enter, false_or, true_and]

/-- A look-up comes to a refusal exactly if the system refuses the path. -/
theorem lookup_eq_error_iff : d.lookup path = .error r ↔ r = ⟨path⟩ ∧ d.Refuses path := by
  simp only [lookup, Refuses]
  by_cases hnul : '\x00' ∈ (toString path).toList
  · simp [hnul]
  · by_cases hlong : maxPathBytes < (toString path).utf8ByteSize
    · simp [hnul, hlong, eq_comm]
    · simp [hnul, hlong, walk_eq_error_iff]

/-- A path without a NUL character that is not too long as a whole is walked
along. -/
theorem lookup_eq_walk (hn : '\x00' ∉ (toString path).toList)
    (hl : (toString path).utf8ByteSize ≤ maxPathBytes) :
    d.lookup path = d.walk path (d.start path) path.parts := by
  have hlong : ¬ maxPathBytes < (toString path).utf8ByteSize := Nat.not_lt.2 hl
  simp [lookup, hn, hlong]

/-- A name that is too long is refused in the working directory. -/
theorem refuses_of_long_name {name : String} (hn : '\x00' ∉ name.toList)
    (hlong : maxNameBytes < name.utf8ByteSize) : d.Refuses ⟨.relative, [name]⟩ := by
  have hplace : d.entryAt? d.workDirectory = some .directory := by simp [entryAt?]
  have hreached : d.ReachesLongName d.workDirectory [name] :=
    reachesLongName_cons_iff.2 ⟨hplace, .inl hlong⟩
  exact ⟨hn, .inr hreached⟩

theorem not_refuses_iff : ¬ d.Refuses path ↔ d.Accessible path := by
  unfold Accessible
  cases hl : d.lookup path with
  | error r => simp [(lookup_eq_error_iff.1 hl).2]
  | ok entry =>
      have hno : ¬ d.Refuses path := by
        intro h
        rw [lookup_eq_error_iff.2 ⟨rfl, h⟩] at hl
        contradiction
      simp [hno]

end Disk

/-! ## Outcomes of loading -/

namespace Catalog

variable {window : Int} {disk : Disk} {path : Path}

theorem load_of_refused {r : Disk.Refusal} (h : disk.lookup path = .error r) :
    load window disk path = .error (.refused r) := load_eq_refused_iff.2 h

theorem load_of_missing (h : disk.lookup path = .ok none) :
    load window disk path = .error (.missing path) := by
  simp only [load, readText, h, Except.map]

theorem load_of_directory (h : disk.lookup path = .ok (some .directory)) :
    load window disk path = .error (.unreadable path .notAFile) := by
  simp only [load, readText, h, Except.map]

/-- A file gives a catalog exactly if its bytes can be read. -/
theorem load_of_file {bytes : List UInt8} (h : disk.lookup path = .ok (some (.file bytes))) :
    load window disk path =
      match readBytes (disk.faultAt? path) bytes with
      | .ok text => .ok (ofText window path text)
      | .error problem => .error (.unreadable path problem) := by
  simp only [load, readText, h]
  cases readBytes (disk.faultAt? path) bytes <;> rfl

/-- Bytes are read as a text exactly if they meet no fault and are UTF-8. -/
theorem exists_readBytes_eq_ok_iff {fault : Option Disk.Fault} {bytes : List UInt8} :
    (∃ text, readBytes fault bytes = .ok text) ↔
      fault = none ∧ ∃ s, Text.Utf8.decode bytes = .ok s := by
  unfold readBytes textOf
  cases fault with
  | some kind => cases kind <;> simp
  | none => cases Text.Utf8.decode bytes <;> simp [Except.map, Except.mapError]

/-- A catalog comes of a file of UTF-8 text that meets no fault, and of nothing
else. -/
theorem exists_load_eq_ok_iff :
    (∃ c, load window disk path = .ok c) ↔
      ∃ bytes, disk.lookup path = .ok (some (.file bytes)) ∧ disk.faultAt? path = none ∧
        ∃ s, Text.Utf8.decode bytes = .ok s := by
  cases hl : disk.lookup path with
  | error r => simp [load_of_refused hl]
  | ok entry =>
      cases entry with
      | none => simp [load_of_missing hl]
      | some entry =>
          cases entry with
          | directory => simp [load_of_directory hl]
          | file bytes =>
              have hread : (∃ text, readBytes (disk.faultAt? path) bytes = .ok text) ↔
                  disk.faultAt? path = none ∧ ∃ s, Text.Utf8.decode bytes = .ok s :=
                exists_readBytes_eq_ok_iff
              rw [load_of_file hl]
              cases hb : readBytes (disk.faultAt? path) bytes with
              | ok text => simpa [hb] using hread
              | error problem => simpa [hb] using hread

/-- Where the system does not refuse, a Makefile is loaded, or is missing, or
is there and cannot be read. -/
theorem load_cases (h : ¬ disk.Refuses path) :
    (∃ c, load window disk path = .ok c) ∨ load window disk path = .error (.missing path) ∨
      ∃ problem, load window disk path = .error (.unreadable path problem) := by
  obtain ⟨entry, hl⟩ := Disk.not_refuses_iff.1 h
  cases entry with
  | none => exact .inr (.inl (load_of_missing hl))
  | some entry =>
      cases entry with
      | directory => exact .inr (.inr ⟨_, load_of_directory hl⟩)
      | file bytes =>
          cases hb : readBytes (disk.faultAt? path) bytes with
          | ok text => exact .inl ⟨_, by rw [load_of_file hl, hb]⟩
          | error problem => exact .inr (.inr ⟨problem, by rw [load_of_file hl, hb]⟩)

end Catalog

/-! ## Listings -/

namespace Server

variable {s : Server} {disk : Disk}

theorem answer_list_of_load {c : Catalog} (h : s.config.load disk = .ok c) :
    (s.list disk).2.answer = .ok (s.config.tools c) := by
  have hrefresh : s.config.refresh disk = .ok c := Config.refresh_eq_ok_iff.2 (.inl h)
  simp only [list, hrefresh, Except.map]

theorem answer_list_of_refuses (h : disk.Refuses s.config.makefile) :
    (s.list disk).2.answer = .error ⟨s.config.makefile⟩ := by
  have hload : s.config.load disk = .error (.refused ⟨s.config.makefile⟩) :=
    Catalog.load_of_refused (Disk.lookup_eq_error_iff.2 ⟨rfl, h⟩)
  simp only [list, Config.refresh, hload, Config.settle, Except.map]

/-- A Makefile that is missing or cannot be read has no tools. -/
theorem answer_list_of_not_loaded (h : ¬ disk.Refuses s.config.makefile)
    (hc : ∀ c, s.config.load disk ≠ .ok c) : (s.list disk).2.answer = .ok [] := by
  obtain ⟨c, hrefresh⟩ := Config.exists_refresh_eq_ok (Disk.not_refuses_iff.1 h)
  cases Config.refresh_eq_ok_iff.1 hrefresh with
  | inl hload => exact absurd hload (hc c)
  | inr hload =>
      obtain ⟨e, -, -, rfl⟩ := hload
      simp only [list, hrefresh, Except.map]
      rfl

/-- **Listings and refusals**: a listing is answered exactly if the system does
not refuse to look up the path of the Makefile.  If it does, loading gives the
refusal, and so does the listing.  If it does not, the Makefile is loaded, and
the listing has its tools, or it is missing or cannot be read, and the listing
is empty.  What is loaded is a file of UTF-8 text that meets no fault. -/
theorem list_answers_iff (s : Server) (disk : Disk) :
    let path := s.config.makefile
    ((∃ tools, (s.list disk).2.answer = .ok tools) ↔ ¬ disk.Refuses path) ∧
    (disk.Refuses path → s.config.load disk = .error (.refused ⟨path⟩) ∧
      (s.list disk).2.answer = .error ⟨path⟩) ∧
    ((∃ c, s.config.load disk = .ok c) ↔
      ∃ bytes, disk.lookup path = .ok (some (.file bytes)) ∧ disk.faultAt? path = none ∧
        ∃ text, Text.Utf8.decode bytes = .ok text) ∧
    (¬ disk.Refuses path →
      (∃ c, s.config.load disk = .ok c ∧ (s.list disk).2.answer = .ok (s.config.tools c)) ∨
      ((s.config.load disk = .error (.missing path) ∨
        ∃ problem, s.config.load disk = .error (.unreadable path problem)) ∧
        (s.list disk).2.answer = .ok [])) := by
  intro path
  have hopen : ¬ disk.Refuses path →
      (∃ c, s.config.load disk = .ok c ∧ (s.list disk).2.answer = .ok (s.config.tools c)) ∨
      ((s.config.load disk = .error (.missing path) ∨
        ∃ problem, s.config.load disk = .error (.unreadable path problem)) ∧
        (s.list disk).2.answer = .ok []) := by
    intro h
    have hcases : (∃ c, s.config.load disk = .ok c) ∨ s.config.load disk = .error (.missing path) ∨
        ∃ problem, s.config.load disk = .error (.unreadable path problem) := Catalog.load_cases h
    cases hcases with
    | inl hload =>
        obtain ⟨c, hc⟩ := hload
        exact .inl ⟨c, hc, answer_list_of_load hc⟩
    | inr hload =>
        refine .inr ⟨hload, answer_list_of_not_loaded h fun c hc => ?_⟩
        rw [hc] at hload
        simp at hload
  refine ⟨?_, fun h => ?_, Catalog.exists_load_eq_ok_iff, hopen⟩
  · constructor
    · rintro ⟨tools, ht⟩ h
      rw [answer_list_of_refuses h] at ht
      contradiction
    · intro h
      cases hopen h with
      | inl hload => exact ⟨_, hload.choose_spec.2⟩
      | inr hempty => exact ⟨_, hempty.2⟩
  · exact ⟨Catalog.load_of_refused (Disk.lookup_eq_error_iff.2 ⟨rfl, h⟩),
      answer_list_of_refuses h⟩

/-- A name that is too long is harmless behind a directory that is missing: the
Makefile is missing too, and the listing is empty. -/
theorem list_answers_of_missing_directory :
    let path : Path := ⟨.relative, ["sub", String.ofList (List.replicate 256 'x')]⟩
    let s : Server := { config := { makefile := path } }
    ¬ Disk.Refuses {} path ∧ (s.list {}).2.answer = .ok [] := by
  intro path s
  have hnul : '\x00' ∉ (toString path).toList := by
    have htext : (toString path).toList = "sub/".toList ++ List.replicate 256 'x' := by
      rw [← @String.toList_ofList (List.replicate 256 'x'), ← String.toList_append]
      rfl
    rw [htext]
    decide +kernel
  have hlookup : Disk.lookup {} path = .ok none := by
    rw [Disk.lookup_eq_walk hnul (by decide +kernel)]
    decide +kernel
  have hopen : ¬ Disk.Refuses {} path := Disk.not_refuses_iff.2 ⟨none, hlookup⟩
  have hmissing : s.config.load {} = .error (.missing path) := Catalog.load_of_missing hlookup
  obtain ⟨-, -, -, hcases⟩ := list_answers_iff s {}
  cases hcases hopen with
  | inl hload =>
      obtain ⟨c, hc, -⟩ := hload
      rw [hmissing] at hc
      cases hc
  | inr hempty => exact ⟨hopen, hempty.2⟩

/-- The same name is refused in the working directory, and then there is no
listing, not even an empty one. -/
theorem exists_listing_refused :
    ¬ ∀ (s : Server) (disk : Disk), ∃ tools, (s.list disk).2.answer = .ok tools := by
  intro h
  have hnone : ∀ path, ¬ Disk.Refuses {} path := by
    intro path hp
    let s : Server := { config := { makefile := path } }
    obtain ⟨tools, ht⟩ := h s {}
    have hrefused : (s.list {}).2.answer = .error ⟨path⟩ := answer_list_of_refuses hp
    rw [hrefused] at ht
    contradiction
  refine hnone _ (@Disk.refuses_of_long_name {} (String.ofList (List.replicate 256 'x')) ?_ ?_)
  · rw [String.toList_ofList]
    decide +kernel
  · decide +kernel

end Server

end MakeTools
