import Manuscript.Proofs.Options.Update

/-!
# Ladders that are read

A ladder whose keys are whole numbers is kept as it is. Any other is kept by level: its keys become
whole numbers, and where several of them stand for one level, the last holds (`Ladder.ReadsTo`). A
ladder is refused if one of its keys stands for no level (`Ladder.read_eq_error_iff`).
-/

namespace Manuscript.Ladder

variable {before entries out : List (Value × Value)} {n : Int} {size : Value}

/-- The size that the last key for a level has. -/
def lastSize (entries : List (Value × Value)) (level : Int) : Option Value :=
  ((entries.filter fun e => (readLevel e.1).toOption = some level).getLast?).map (·.2)

/-- The last size for a level is the one given later, or else the first. -/
theorem lastSize_cons (e : Value × Value) (entries : List (Value × Value)) (n : Int) :
    lastSize (e :: entries) n =
      (lastSize entries n).or (if (readLevel e.1).toOption = some n then some e.2 else none) := by
  rw [lastSize, lastSize, List.filter_cons]
  by_cases h : (readLevel e.1).toOption = some n
  · rw [if_pos (by simpa using h), if_pos h, List.getLast?_cons, Option.map_some]
    cases (entries.filter fun e => (readLevel e.1).toOption = some n).getLast? <;> rfl
  · rw [if_neg (by simpa using h), if_neg h, Option.or_none]

/-- What a ladder is kept as. -/
inductive ReadsTo (given : List (Value × Value)) : List (Value × Value) → Prop
  /-- Its keys are whole numbers already. -/
  | asGiven (h : ∀ e ∈ given, isLevel e.1 = true) : ReadsTo given given
  /-- Its keys become whole numbers, and the last one for a level has the size of it. -/
  | byLevel {kept : List (Value × Value)} (hgiven : ¬ ∀ e ∈ given, isLevel e.1 = true)
    (hkeys : ∀ e ∈ kept, ∃ n, e.1 = .int n) (hsize : ∀ n, sizeAt kept n = lastSize given n) :
    ReadsTo given kept

/-! ## The sizes of levels -/

/-- The size at a level is that of the first entry for it. -/
theorem sizeAt_cons (m : Int) (size : Value) (entries : List (Value × Value)) (n : Int) :
    sizeAt ((.int m, size) :: entries) n = if m = n then some size else sizeAt entries n := by
  by_cases h : m = n <;> simp [sizeAt, Value.same, Value.sameNumber, h]

/-- Putting a size changes that at its level only. -/
theorem sizeAt_put (h : ∀ e ∈ entries, ∃ m, e.1 = .int m) (m : Int) :
    sizeAt (Value.put entries (.int m) size) n = if m = n then some size else sizeAt entries n := by
  induction entries with
  | nil => exact sizeAt_cons m size [] n
  | cons e rest ih =>
    obtain ⟨⟨k, hk⟩, hrest⟩ := List.forall_mem_cons.1 h
    obtain ⟨key, old⟩ := e
    subst hk
    have hsame : Value.same (.int k) (.int m) = (k == m) := rfl
    rw [Value.put, hsame, sizeAt_cons]
    by_cases hkm : k = m
    · subst hkm
      rw [if_pos (beq_self_eq_true k), sizeAt_cons]
      split <;> rfl
    · rw [if_neg (by simpa using hkm), sizeAt_cons, ih hrest]
      by_cases hk : k = n
      · rw [if_pos hk, if_pos hk, if_neg fun hm => hkm (hk.trans hm.symm)]
      · rw [if_neg hk, if_neg hk]

/-- Keys are read one after the other: the last one for a level sets the size of it, and where there
    is none, the size is that of before. -/
theorem sizeAt_readFrom (hbefore : ∀ e ∈ before, ∃ m, e.1 = .int m)
    (h : readFrom before entries = .ok out) :
    sizeAt out n = (lastSize entries n).or (sizeAt before n) := by
  induction entries generalizing before with
  | nil =>
    cases h
    rfl
  | cons e rest ih =>
    obtain ⟨m, hm, h⟩ := ok_of_bind h
    rw [ih (int_of_mem_put hbefore) h, sizeAt_put hbefore, lastSize_cons, hm, Option.or_assoc]
    congr 1
    by_cases hmn : m = n <;> simp [Except.toOption, hmn]

/-! ## How reading ends -/

/-- Reading a ladder fails with the first level that cannot be read. -/
theorem readFrom_eq_error_iff {e : SettingError} :
    readFrom before entries = .error e ↔ FailsFirst (fun entry => readLevel entry.1) entries e := by
  induction entries generalizing before with
  | nil => exact iff_of_false nofun failsFirst_nil
  | cons entry rest ih =>
    rw [readFrom, bind_eq_error_iff, failsFirst_cons, ← exists_and_right]
    exact or_congr_right (exists_congr fun m => and_congr_right fun _ => ih)

/-- What is a level can be read as one. -/
theorem readLevel_of_isLevel {v : Value} (h : isLevel v = true) : ∃ n, readLevel v = .ok n := by
  cases v with
  | bool b => exact ⟨_, rfl⟩
  | number n =>
    cases n with
    | whole n => exact ⟨n, rfl⟩
    | float x => cases h
  | _ => cases h

/-- A ladder is refused as the first of its keys that stands for no level. -/
theorem read_eq_error_iff {v : Value} {e : SettingError} :
    read v = .error e ↔
      ∃ entries, v = .map entries ∧ FailsFirst (fun entry => readLevel entry.1) entries e := by
  cases v with
  | map entries =>
    rw [read]
    split
    · next hall =>
      -- No key is refused that is a whole number already.
      refine iff_of_false (by simp) ?_
      rintro ⟨_, ⟨⟩, h⟩
      obtain ⟨entry, hentry, he⟩ := h.exists_mem
      obtain ⟨n, hn⟩ := readLevel_of_isLevel (List.all_eq_true.1 hall entry hentry)
      cases hn.symm.trans he
    · rw [bind_eq_error_iff, readFrom_eq_error_iff]
      simp [pure, Except.pure]
  | _ => simp [read]

/-- A ladder that is read keeps the last size given for each level. -/
theorem readsTo_of_read {given : List (Value × Value)} {w : Value}
    (h : read (.map given) = .ok w) : ∃ kept, w = .map kept ∧ ReadsTo given kept := by
  rw [read] at h
  split at h
  · next hall =>
    cases h
    exact ⟨given, rfl, .asGiven (List.all_eq_true.1 hall)⟩
  · next hall =>
    obtain ⟨kept, hkept, h⟩ := ok_of_bind h
    cases h
    refine ⟨kept, rfl, .byLevel (fun hgiven => hall (List.all_eq_true.2 hgiven)) ?_ fun n => ?_⟩
    · exact fun e he => (of_mem_readFrom (by simp) hkept e he).1
    · rw [sizeAt_readFrom (by simp) hkept]
      exact Option.or_none

end Manuscript.Ladder
