/-
The standard library is lawful.

What a file gives and how it fails to be read is told by the steps of reading it
(`readFile_eq_ok`, `readFile_eq_error`), and validation succeeds exactly if every single value
is read and no other key is left (`validate_eq_ok`).  With the rules for merged sources these
are the rules of a library (`standard_isLawful`), so that there is one and what is proved of
lawful libraries is proved of the one that runs.
-/
import BorrowGraph.Proofs.SettingsMerging

namespace BorrowGraph

namespace FileTree

variable {t : FileTree}

theorem isFile_eq_ok_true {p : Path} :
    t.isFile p = .ok true ↔ ∃ bytes, t.readBytes p = .ok bytes := by
  rw [isFile, ask, readBytes]
  rcases p.hasNull with _ | _
  · rcases t.stat p with c | _ | _
    · cases c <;> simp
    · simp [Node.isFile]
    · simp [Node.isFile]
  · simp

end FileTree

namespace Settings.Standard

/-! ### Files -/

section Files

variable {w : Surroundings} {path : Path} {f : Fault}

theorem expand_eq_error : w.expand path = .error f ↔ LacksHome w path ∧ f = .unknownHome := by
  constructor
  · intro h
    rw [Surroundings.expand.eq_def] at h
    split at h
    · rename_i first rest hroot hparts
      have hpath : path = ⟨"", first :: rest⟩ := by
        rw [← hroot, ← hparts]
      split at h
      · rename_i user hfirst
        split at h
        · rename_i hunknown
          cases h
          refine ⟨⟨first, rest, user, hpath, hfirst, fun home hhome => ?_⟩, rfl⟩
          cases hunknown.symm.trans hhome
        · rename_i home hhome
          split at h
          · rename_i htilde
            cases h
            refine ⟨⟨first, rest, user, hpath, hfirst, fun home' hhome' => ?_⟩, rfl⟩
            rw [← Option.some.inj (hhome.symm.trans hhome')]
            exact htilde
          · cases h
      · cases h
    · cases h
  · rintro ⟨⟨first, rest, user, rfl, hfirst, hhome⟩, rfl⟩
    simp only [Surroundings.expand, hfirst]
    split
    · rfl
    · rename_i home h
      rw [if_pos (hhome home h)]

theorem readFile_of_hasBytes {bytes : List UInt8} (h : HasBytes w path bytes) :
    readFile w path = ((Utf8.decode bytes).mapError .undecodable >>= fun chars =>
      (Toml.read chars).mapError fileFault) := by
  obtain ⟨place, hexpand, hbytes⟩ := h
  rw [readFile, hexpand, ok_bind, FileTree.isFile_eq_ok_true.mpr ⟨bytes, hbytes⟩, ok_bind,
    if_pos rfl, hbytes, ok_bind]

theorem readFile_of_hasText {chars : List Char} (h : HasText w path chars) :
    readFile w path = (Toml.read chars).mapError fileFault := by
  obtain ⟨bytes, hbytes, hchars⟩ := h
  rw [readFile_of_hasBytes hbytes, mapError_eq_ok.mpr hchars, ok_bind]

theorem readFile_eq_ok {fields : Layer} :
    readFile w path = .ok fields ↔ FileGives w path fields := by
  constructor
  · intro h
    obtain ⟨place, hexpand, h⟩ := bind_eq_ok.mp h
    obtain ⟨isFile, hfile, h⟩ := bind_eq_ok.mp h
    cases isFile with
    | false =>
      cases h
      exact .missing hexpand hfile
    | true =>
      obtain ⟨bytes, hbytes, h⟩ := bind_eq_ok.mp h
      obtain ⟨chars, htext, h⟩ := bind_eq_ok.mp h
      exact .document ⟨bytes, ⟨place, hexpand, hbytes⟩, mapError_eq_ok.mp htext⟩
        (mapError_eq_ok.mp h)
  · rintro (⟨htext, hread⟩ | ⟨hexpand, hfile⟩)
    · rw [readFile_of_hasText htext, hread]
      rfl
    · exact bind_eq_ok.mpr ⟨_, hexpand, bind_eq_ok.mpr ⟨false, hfile, rfl⟩⟩

theorem readFile_eq_error : readFile w path = .error f ↔ IsRefused w path f ∨ Breaks w path f := by
  constructor
  · intro h
    rcases bind_eq_error.mp h with hexpand | ⟨place, hexpand, h⟩
    · obtain ⟨hhome, rfl⟩ := expand_eq_error.mp hexpand
      exact .inr (.unknownHome hhome)
    rcases bind_eq_error.mp h with hfile | ⟨isFile, hfile, h⟩
    · obtain ⟨hlong, rfl⟩ := FileTree.ask_eq_error.mp hfile
      exact .inl (.longPath hexpand hlong)
    cases isFile with
    | false => cases h
    | true =>
      obtain ⟨bytes, hbytes⟩ := FileTree.isFile_eq_ok_true.mp hfile
      rw [if_pos rfl, hbytes, ok_bind] at h
      rcases bind_eq_error.mp h with hdecode | ⟨chars, hdecode, h⟩
      · obtain ⟨e, htext, rfl⟩ := mapError_eq_error.mp hdecode
        exact .inr (.undecodable ⟨place, hexpand, hbytes⟩ htext)
      · have htext : HasText w path chars :=
          ⟨bytes, ⟨place, hexpand, hbytes⟩, mapError_eq_ok.mp hdecode⟩
        obtain ⟨e, hread, rfl⟩ := mapError_eq_error.mp h
        cases e with
        | malformed => exact .inl (.malformed htext hread)
        | tooLong n => exact .inr (.longNumeral htext hread)
        | tooDeep => exact .inr (.deepNesting htext hread)
  · rintro ((⟨htext, hread⟩ | ⟨hexpand, hlong⟩) |
      (hhome | ⟨hbytes, hchars⟩ | ⟨htext, hread⟩ | ⟨htext, hread⟩))
    · rw [readFile_of_hasText htext, hread]
      rfl
    · exact bind_eq_error.mpr (.inr ⟨_, hexpand,
        bind_eq_error.mpr (.inl (FileTree.ask_eq_error.mpr ⟨hlong, rfl⟩))⟩)
    · exact bind_eq_error.mpr (.inl (expand_eq_error.mpr ⟨hhome, rfl⟩))
    · rw [readFile_of_hasBytes hbytes, hchars]
      rfl
    · rw [readFile_of_hasText htext, hread]
      rfl
    · rw [readFile_of_hasText htext, hread]
      rfl

end Files

/-! ### Checking -/

theorem check_eq_ok {α : Type} {values : Layer} {k : Key} {usual a : α}
    {read : Value → Except Complaint α} :
    check values k usual read = .ok a ↔
      (Assoc.get? k.text values).elim (a = usual) fun v => (read v).toOption = some a := by
  rw [check]
  cases Assoc.get? k.text values with
  | none => exact ⟨fun h => (Except.ok.inj h).symm, fun h => congrArg _ h.symm⟩
  | some v => exact mapError_eq_ok.trans toOption_eq_some.symm

theorem mem_texts_iff {name : String} : name ∈ Key.all.map Key.text ↔ ∃ k : Key, name = k.text := by
  rw [List.mem_map]
  exact ⟨fun ⟨k, _, hk⟩ => ⟨k, hk.symm⟩, fun ⟨k, hk⟩ => ⟨k, mem_all k, hk.symm⟩⟩

theorem validate_eq_ok {prepare : Key → Value → Value} {values : Layer} {s : Settings} :
    validate prepare values = .ok s ↔
      (∀ k : Key, Library.standard.Makes prepare s k (Assoc.get? k.text values)) ∧
        ∀ x ∈ values, ∃ k : Key, x.1 = k.text := by
  simp only [← mem_texts_iff]
  constructor
  · intro h
    obtain ⟨logDir, hlogDir, h⟩ := bind_eq_ok.mp h
    obtain ⟨factsDir, hfactsDir, h⟩ := bind_eq_ok.mp h
    obtain ⟨proc, hproc, h⟩ := bind_eq_ok.mp h
    obtain ⟨dumpInfo, hdumpInfo, h⟩ := bind_eq_ok.mp h
    obtain ⟨showVariables, hshowVariables, h⟩ := bind_eq_ok.mp h
    obtain ⟨showIndices, hshowIndices, h⟩ := bind_eq_ok.mp h
    obtain ⟨debugInfo, hdebugInfo, h⟩ := bind_eq_ok.mp h
    split at h
    · cases h
    · rename_i hfind
      cases h
      refine ⟨fun k => ?_, fun x hx => ?_⟩
      · cases k with
        | logDir => exact check_eq_ok.mp hlogDir
        | factsDir => exact check_eq_ok.mp hfactsDir
        | proc => exact check_eq_ok.mp hproc
        | dumpInfo => exact check_eq_ok.mp hdumpInfo
        | showVariables => exact check_eq_ok.mp hshowVariables
        | showIndices => exact check_eq_ok.mp hshowIndices
        | debugInfo => exact check_eq_ok.mp hdebugInfo
      · exact not_not.mp fun hnot => List.find?_eq_none.mp hfind x hx (decide_eq_true hnot)
  · rintro ⟨hmade, hknown⟩
    have hfind : values.find? (fun x => decide (x.1 ∉ Key.all.map Key.text)) = none :=
      List.find?_eq_none.mpr fun x hx hnot => of_decide_eq_true hnot (hknown x hx)
    refine bind_eq_ok.mpr ⟨s.logDir, check_eq_ok.mpr (hmade .logDir), ?_⟩
    refine bind_eq_ok.mpr ⟨s.factsDir, check_eq_ok.mpr (hmade .factsDir), ?_⟩
    refine bind_eq_ok.mpr ⟨s.proc, check_eq_ok.mpr (hmade .proc), ?_⟩
    refine bind_eq_ok.mpr ⟨s.dumpInfo, check_eq_ok.mpr (hmade .dumpInfo), ?_⟩
    refine bind_eq_ok.mpr ⟨s.showVariables, check_eq_ok.mpr (hmade .showVariables), ?_⟩
    refine bind_eq_ok.mpr ⟨s.showIndices, check_eq_ok.mpr (hmade .showIndices), ?_⟩
    refine bind_eq_ok.mpr ⟨s.debugInfo, check_eq_ok.mpr (hmade .debugInfo), ?_⟩
    rw [hfind]
    rfl

end Settings.Standard

namespace Settings

/-- The library that runs follows the rules. -/
theorem standard_isLawful : Library.standard.IsLawful where
  start w given h := Standard.start_of_isPlain h w
  readFile_ok _ _ _ := Standard.readFile_eq_ok
  readFile_error _ _ _ := Standard.readFile_eq_error
  combine w given sources h :=
    ⟨_, Standard.combine_of_isPlain h w sources, Standard.merges_mergeAll _⟩
  validate _ _ _ := Standard.validate_eq_ok
  table s fields k := by
    cases k <;> rintro ⟨⟩
  null := rfl

end Settings
end BorrowGraph
