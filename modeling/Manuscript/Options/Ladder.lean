import Manuscript.Options.Setting

/-!
# Ladders of sizes

A table gives sizes by level. Its keys may be given in any form that stands for a whole number
(`Ladder.readLevel`), and are whole numbers once it has been read (`Ladder.read`): reading it again
changes nothing (`Ladder.read_read`).
-/

namespace Manuscript.Ladder

/-- The text of bytes in ASCII. A mark stands for each byte that is none. -/
def asciiText (bytes : List UInt8) : String :=
  .ofList (bytes.map fun b => if b < 128 then .ofNat b.toNat else '\ufffd')

/-- The level that a key stands for. A fraction is cut off. -/
def readLevel : Value → Except SettingError Int
  | .number (.whole n) => .ok n
  | .number (.float x) =>
    match x.truncate with
    | some n => .ok n
    | none => .error (.unboundedLevel (x = .nan))
  | .bool b => .ok (Value.ofBool b)
  | .text s => (Text.readInteger s).mapError .badLevel
  | .bytes bs =>
    (Text.readInteger (asciiText bs)).mapError fun
      | .malformed _ => .badLevelBytes bs
      | e => .badLevel e
  | _ => .error (.wrongKind "heading_font_sizes")

/-- Whether a key is a whole number as it stands. A truth value is one. -/
def isLevel : Value → Bool
  | .number (.whole _) | .bool _ => true
  | _ => false

/-- Reads the keys of a table after some entries. Where several keys stand for one level, the last
    one holds, in the place of the first. -/
def readFrom (before : List (Value × Value)) :
    List (Value × Value) → Except SettingError (List (Value × Value))
  | [] => .ok before
  | (key, size) :: rest => do
    readFrom (Value.put before (.int (← readLevel key)) size) rest

/-- Reads the keys of a table as levels, unless they are all whole numbers already. -/
def read : Value → Except SettingError Value
  | .map entries =>
    if entries.all fun e => isLevel e.1 then .ok (.map entries)
    else do return .map (← readFrom [] entries)
  | v => .ok v

/-- The size of a level. -/
def sizeAt (entries : List (Value × Value)) (level : Int) : Option Value :=
  (entries.find? fun e => e.1.same (.int level)).map (·.2)

/-! ## Reading again -/

theorem of_mem_put {entries : List (Value × Value)} {key size : Value} {e : Value × Value}
    (h : e ∈ Value.put entries key size) :
    (e.1 = key ∨ e.1 ∈ entries.map (·.1)) ∧ (e.2 = size ∨ e.2 ∈ entries.map (·.2)) := by
  induction entries with
  | nil => simp_all [Value.put]
  | cons e' rest ih =>
    rw [Value.put] at h
    split at h
    · obtain rfl | h := List.mem_cons.1 h
      · simp
      · exact ⟨.inr (List.mem_cons_of_mem _ (List.mem_map_of_mem h)),
          .inr (List.mem_cons_of_mem _ (List.mem_map_of_mem h))⟩
    · obtain rfl | h := List.mem_cons.1 h
      · simp
      · obtain ⟨hkey, hsize⟩ := ih h
        exact ⟨hkey.imp_right (List.mem_cons_of_mem _), hsize.imp_right (List.mem_cons_of_mem _)⟩

theorem int_of_mem_put {entries : List (Value × Value)} {n : Int} {size : Value}
    (h : ∀ e ∈ entries, ∃ m, e.1 = .int m) :
    ∀ e ∈ Value.put entries (.int n) size, ∃ m, e.1 = .int m := by
  intro e he
  obtain ⟨hkey | hkey, -⟩ := of_mem_put he
  · exact ⟨n, hkey⟩
  · obtain ⟨e', he', heq⟩ := List.mem_map.1 hkey
    exact heq ▸ h e' he'

/-- The keys that are read are whole numbers, and the sizes are among those that were there. -/
theorem of_mem_readFrom {before entries out : List (Value × Value)}
    (hbefore : ∀ e ∈ before, ∃ n, e.1 = .int n) (h : readFrom before entries = .ok out) :
    ∀ e ∈ out,
      (∃ n, e.1 = .int n) ∧ (e.2 ∈ before.map (·.2) ∨ e.2 ∈ entries.map (·.2)) := by
  induction entries generalizing before with
  | nil =>
    cases h
    exact fun e he => ⟨hbefore e he, .inl (List.mem_map_of_mem he)⟩
  | cons entry rest ih =>
    rw [readFrom] at h
    cases hlevel : readLevel entry.1 with
    | error e =>
      rw [hlevel] at h
      cases h
    | ok n =>
      rw [hlevel] at h
      intro e he
      obtain ⟨hkey, hsize⟩ := ih (int_of_mem_put hbefore) h e he
      refine ⟨hkey, ?_⟩
      obtain hsize | hsize := hsize
      · obtain ⟨e', he', heq⟩ := List.mem_map.1 hsize
        obtain hnew | hold := (of_mem_put he').2
        · exact .inr (by simp [← heq, hnew])
        · exact .inl (heq ▸ hold)
      · exact .inr (List.mem_cons_of_mem _ hsize)

/-- A table that has been read is read as it is. -/
theorem read_read {v w : Value} (h : read v = .ok w) : read w = .ok w := by
  cases v with
  | map entries =>
    rw [read] at h
    split at h
    · next hall =>
      cases h
      rw [read, if_pos hall]
    · cases hout : readFrom [] entries with
      | error e =>
        rw [hout] at h
        cases h
      | ok out =>
        rw [hout] at h
        cases h
        have hall : out.all (fun e => isLevel e.1) = true := by
          refine List.all_eq_true.2 fun e he => ?_
          obtain ⟨n, hn⟩ := (of_mem_readFrom (by simp) hout e he).1
          rw [hn]
          rfl
        rw [read, if_pos hall]
  | _ =>
    cases h
    rfl

/-- What holds of all sizes of a table still does when it has been read. -/
theorem forall_size_read {P : Value → Prop} {entries : List (Value × Value)} {w : Value}
    (hsizes : ∀ e ∈ entries, P e.2) (h : read (.map entries) = .ok w) :
    ∃ out, w = .map out ∧ ∀ e ∈ out, P e.2 := by
  rw [read] at h
  split at h
  · cases h
    exact ⟨entries, rfl, hsizes⟩
  · cases hout : readFrom [] entries with
    | error e =>
      rw [hout] at h
      cases h
    | ok out =>
      rw [hout] at h
      cases h
      refine ⟨out, rfl, fun e he => ?_⟩
      obtain hnone | hsize := (of_mem_readFrom (by simp) hout e he).2
      · simp at hnone
      · obtain ⟨e', he', heq⟩ := List.mem_map.1 hsize
        exact heq ▸ hsizes e' he'

/-- A table of positive numbers is still one when it has been read. -/
theorem ladder_read {name : String} {v w : Value} (hv : Rule.ladder name v = .ok ())
    (h : read v = .ok w) : Rule.ladder name w = .ok () := by
  obtain ⟨entries, rfl, hsizes⟩ := Rule.ladder_eq_ok_iff.1 hv
  exact Rule.ladder_eq_ok_iff.2 (forall_size_read (P := (·.isSize = true)) hsizes h)

end Manuscript.Ladder
