import Mathlib.Tactic

/-!
# Tables as comma-separated text

The text of a table has its rows separated by line breaks and the cells of a row by commas.  A
cell stands as it is, or between quotes where a quote of its own is doubled.  The module names
nothing of a particular program.
-/

namespace Rfc4180

def isTextData (c : Char) : Bool :=
  c ≠ '"' && c ≠ ',' && c ≠ '\r' && c ≠ '\n'

def double (cell : List Char) : List Char :=
  cell.flatMap fun c => if c = '"' then ['"', '"'] else [c]

@[simp] theorem double_nil : double [] = [] :=
  rfl

@[simp] theorem double_cons (c : Char) (cell : List Char) :
    double (c :: cell) = (if c = '"' then ['"', '"'] else [c]) ++ double cell :=
  rfl

/-! ## The grammar -/

inductive Field : (text cell : List Char) → Prop
  | plain {cell : List Char} (hcell : ∀ c ∈ cell, isTextData c = true) : Field cell cell
  | quoted (cell : List Char) : Field ('"' :: double cell ++ ['"']) cell

inductive Text : (text : List Char) → (rows : List (List (List Char))) → Prop
  | cell {text cell : List Char} (hfield : Field text cell) : Text text [[cell]]
  | comma {text cell rest : List Char} {row : List (List Char)} {rows : List (List (List Char))}
      (hfield : Field text cell) (hrest : Text rest (row :: rows)) :
      Text (text ++ ',' :: rest) ((cell :: row) :: rows)
  | lineBreak {text cell rest : List Char} {rows : List (List (List Char))}
      (hfield : Field text cell) (hrest : Text rest rows) :
      Text (text ++ '\r' :: '\n' :: rest) ([cell] :: rows)

/-! ## Reading -/

def readQuoted : List Char → Option (List Char × List Char)
  | [] => none
  | '"' :: '"' :: rest => (readQuoted rest).map fun found => ('"' :: found.1, found.2)
  | '"' :: rest => some ([], rest)
  | c :: rest => (readQuoted rest).map fun found => (c :: found.1, found.2)

def readField : List Char → Option (List Char × List Char)
  | '"' :: rest => readQuoted rest
  | chars => some (chars.takeWhile isTextData, chars.dropWhile isTextData)

def addCell (cell : List Char) : List (List (List Char)) → List (List (List Char))
  | [] => [[cell]]
  | row :: rows => (cell :: row) :: rows

def readRows : (fuel : Nat) → List Char → Option (List (List (List Char)))
  | 0, _ => none
  | fuel + 1, chars =>
      match readField chars with
      | some (cell, []) => some [[cell]]
      | some (cell, ',' :: rest) => (readRows fuel rest).map (addCell cell)
      | some (cell, '\r' :: '\n' :: rest) => (readRows fuel rest).map ([cell] :: ·)
      | _ => none

def decode (chars : List Char) : Option (List (List (List Char))) :=
  readRows (chars.length + 1) chars

/-! ## Texts of the grammar are read back -/

def EndsField : List Char → Prop
  | [] => True
  | c :: _ => c = ',' ∨ c = '\r'

theorem endsField_comma (rest : List Char) : EndsField (',' :: rest) :=
  .inl rfl

theorem endsField_lineBreak (rest : List Char) : EndsField ('\r' :: rest) :=
  .inr rfl

variable {rest : List Char}

theorem readQuoted_double (cell : List Char) (hrest : EndsField rest) :
    readQuoted (double cell ++ '"' :: rest) = some (cell, rest) := by
  induction cell with
  | nil =>
      cases rest with
      | nil => rfl
      | cons c rest =>
          rcases hrest with rfl | rfl
          · rfl
          · rfl
  | cons c cell ih =>
      by_cases hquote : c = '"'
      · subst hquote
        simp [readQuoted, ih]
      · simp [readQuoted, hquote, ih]

theorem readField_of_plain {chars : List Char} (hhead : chars.head? ≠ some '"') :
    readField chars = some (chars.takeWhile isTextData, chars.dropWhile isTextData) := by
  cases chars with
  | nil => rfl
  | cons c chars =>
      have hquote : c ≠ '"' := fun heq => hhead (congrArg some heq)
      unfold readField
      split
      · rename_i heq
        exact absurd (List.cons.inj heq).1 hquote
      · rfl

theorem stops_of_endsField (hrest : EndsField rest) :
    rest.head? ≠ some '"' ∧ rest.takeWhile isTextData = [] ∧ rest.dropWhile isTextData = rest := by
  cases rest with
  | nil => exact ⟨nofun, rfl, rfl⟩
  | cons c rest =>
      rcases hrest with rfl | rfl
      · exact ⟨by simp, rfl, rfl⟩
      · exact ⟨by simp, rfl, rfl⟩

variable {text : List Char}

theorem readField_of_field {cell : List Char} (hfield : Field text cell) (hrest : EndsField rest) :
    readField (text ++ rest) = some (cell, rest) := by
  cases hfield with
  | quoted =>
      have htext : '"' :: double cell ++ ['"'] ++ rest = '"' :: (double cell ++ '"' :: rest) := by
        simp
      rw [htext, readField]
      exact readQuoted_double cell hrest
  | plain htext =>
      obtain ⟨hhead, htake, hdrop⟩ := stops_of_endsField hrest
      have hplain : (text ++ rest).head? ≠ some '"' := by
        cases text with
        | nil => exact hhead
        | cons c text =>
            intro heq
            have hdata := htext c List.mem_cons_self
            rw [Option.some.inj heq] at hdata
            cases hdata
      rw [readField_of_plain hplain, List.takeWhile_append_of_pos htext,
        List.dropWhile_append_of_pos htext, htake, hdrop, List.append_nil]

variable {rows : List (List (List Char))}

theorem readRows_of_text (htext : Text text rows) {fuel : Nat} (hfuel : text.length < fuel) :
    readRows fuel text = some rows := by
  induction htext generalizing fuel with
  | cell hfield =>
      obtain ⟨fuel, rfl⟩ := Nat.exists_eq_add_one_of_ne_zero (by omega : fuel ≠ 0)
      have hread := readField_of_field hfield (show EndsField [] from trivial)
      rw [List.append_nil] at hread
      rw [readRows, hread]
  | comma hfield _ ih =>
      obtain ⟨fuel, rfl⟩ := Nat.exists_eq_add_one_of_ne_zero (by omega : fuel ≠ 0)
      rw [List.length_append, List.length_cons] at hfuel
      rw [readRows, readField_of_field hfield (endsField_comma _)]
      exact congrArg (Option.map (addCell _)) (@ih fuel (by omega))
  | lineBreak hfield _ ih =>
      obtain ⟨fuel, rfl⟩ := Nat.exists_eq_add_one_of_ne_zero (by omega : fuel ≠ 0)
      rw [List.length_append, List.length_cons, List.length_cons] at hfuel
      rw [readRows, readField_of_field hfield (endsField_lineBreak _)]
      exact congrArg (Option.map ([_] :: ·)) (@ih fuel (by omega))

theorem decode_of_text (htext : Text text rows) : decode text = some rows :=
  readRows_of_text htext (Nat.lt_succ_self text.length)

/-! ## Joined texts -/

theorem text_of_row {texts cells : List (List Char)} (hfields : List.Forall₂ Field texts cells)
    (hcells : cells ≠ []) : Text ([','].intercalate texts) [cells] := by
  induction hfields with
  | nil => exact absurd rfl hcells
  | @cons text cell texts cells hfield hfields ih =>
      cases hfields with
      | nil =>
          rw [List.intercalate_singleton]
          exact .cell hfield
      | cons hnext hlater =>
          rw [List.intercalate_cons_cons, List.append_assoc]
          exact .comma hfield (ih (List.cons_ne_nil _ _))

theorem Text.row {texts cells : List (List Char)} (hfields : List.Forall₂ Field texts cells)
    (hcells : cells ≠ []) (hrest : Text rest rows) :
    Text ([','].intercalate texts ++ '\r' :: '\n' :: rest) (cells :: rows) := by
  induction hfields with
  | nil => exact absurd rfl hcells
  | @cons text cell texts cells hfield hfields ih =>
      cases hfields with
      | nil =>
          rw [List.intercalate_singleton]
          exact .lineBreak hfield hrest
      | cons hnext hlater =>
          rw [List.intercalate_cons_cons, List.append_assoc, List.append_assoc]
          exact .comma hfield (ih (List.cons_ne_nil _ _))

theorem text_of_table {texts : List (List (List Char))}
    (hfields : List.Forall₂ (List.Forall₂ Field) texts rows) (hrows : rows ≠ [])
    (hcells : ∀ row ∈ rows, row ≠ []) :
    Text (['\r', '\n'].intercalate (texts.map fun row => [','].intercalate row)) rows := by
  induction hfields with
  | nil => exact absurd rfl hrows
  | @cons text row texts rows hfield hfields ih =>
      have hrow := hcells row List.mem_cons_self
      cases hfields with
      | nil =>
          rw [List.map_singleton, List.intercalate_singleton]
          exact text_of_row hfield hrow
      | cons hnext hlater =>
          rw [List.map_cons, List.map_cons, List.intercalate_cons_cons, List.append_assoc]
          exact .row hfield hrow (ih (List.cons_ne_nil _ _)
            fun other hother => hcells other (List.mem_cons_of_mem _ hother))

end Rfc4180
