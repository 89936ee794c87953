import TauriPlatform.PlainValue
import TauriPlatform.PruningFilter
import TauriPlatform.TablePruner

/-!
# Pruning declared tables

A feature declares a table, a column of times and a filter, and `DeclarativeTablePruner` splices
them into its statements.
-/

namespace TauriPlatform

open Regular SqliteScript SqliteText PruningFilter

/-! ## The constructor -/

/-- `IDENTIFIER_REGEX`. -/
def identifierPattern : Pattern :=
  .plus (.set isIdentifierChar)

structure DeclarativeTablePruner where
  id : PlainValue
  displayName : PlainValue
  description : PlainValue
  defaultRetentionDays : JsonNumber
  tableName : String
  timestampColumn : String
  /-- The filter, unless it counts as false. -/
  filterCondition : Option String
  positive : defaultRetentionDays.isPositive
  tableNameAccepted : identifierPattern.accepts tableName.toList
  timestampColumnAccepted : identifierPattern.accepts timestampColumn.toList
  filterAccepted : ∀ filter, filterCondition = some filter →
    safePruningFilter.accepts filter.toList

namespace DeclarativeTablePruner

def reject {α : Type} (policy : PlainValue) (message : String → String)
    (userMessage correlation : String) : Except Thrown α := do
  let id ← (← policy.get "id").text
  throw (validationError (message id) userMessage (correlation ++ id))

def checkRetentionDays (policy : PlainValue) :
    Except Thrown {value : JsonNumber // value.isPositive} := do
  let days ← policy.get "defaultRetentionDays"
  let rejected : Except Thrown {value : JsonNumber // value.isPositive} := do
    let text ← days.text
    reject policy
      (fun id => s!"Invalid defaultRetentionDays '{text}' in declarative pruning policy '{id}'. " ++
        "It must be a positive finite number.")
      "Invalid pruning retention configuration" "val_prune_retention_"
  match days with
  | .number (.finite value) => if h : value.isPositive then pure ⟨value, h⟩ else rejected
  | _ => rejected

def checkIdentifier (policy : PlainValue) (field noun userMessage correlation : String) :
    Except Thrown {name : String // identifierPattern.accepts name.toList} := do
  let name ← (← policy.get field).text
  if h : identifierPattern.accepts name.toList then pure ⟨name, h⟩
  else
    reject policy
      (fun id => s!"Invalid {noun} '{name}' in declarative pruning policy '{id}'. " ++
        "Only alphanumeric characters and underscores are permitted.")
      userMessage correlation

def checkTableName (policy : PlainValue) :
    Except Thrown {name : String // identifierPattern.accepts name.toList} :=
  checkIdentifier policy "tableName" "table name" "Invalid table configuration"
    "val_prune_table_"

def checkTimestampColumn (policy : PlainValue) :
    Except Thrown {name : String // identifierPattern.accepts name.toList} :=
  checkIdentifier policy "timestampColumn" "timestamp column" "Invalid column configuration"
    "val_prune_col_"

/-- `value.length <= 512`, for any value. -/
def isShort (value : PlainValue) : Except Thrown Bool := do
  let length ← (← value.get "length").toNumber
  return length.le (.finite 512)

/-- `isSafePruningFilterCondition`, for any value: the text which was tested, if it passed. -/
def safeFilter? (value : PlainValue) :
    Except Thrown (Option {filter : String // safePruningFilter.accepts filter.toList}) := do
  if ← isShort value then
    let filter ← value.text
    return if h : safePruningFilter.accepts filter.toList then some ⟨filter, h⟩ else none
  else return none

def checkFilter (policy : PlainValue) :
    Except Thrown (Option {filter : String // safePruningFilter.accepts filter.toList}) := do
  let value ← policy.get "filterCondition"
  if value.isTrue then
    match ← safeFilter? value with
    | some filter => return some filter
    | none =>
        reject policy
          (fun id => s!"Unsafe filterCondition in pruning policy '{id}'. " ++
            "Use a single column comparison with a literal value.")
          "Invalid filter configuration" "val_prune_filter_"
  else return none

/-- `new DeclarativeTablePruner(policy)`. -/
def create (policy : PlainValue) : Except Thrown DeclarativeTablePruner := do
  let defaultRetentionDays ← checkRetentionDays policy
  let tableName ← checkTableName policy
  let timestampColumn ← checkTimestampColumn policy
  let filter ← checkFilter policy
  return {
    id := ← policy.get "id"
    displayName := ← policy.get "displayName"
    description := PlainValue.orElse
      (.string s!"Declarative table pruner for {tableName.1} ({timestampColumn.1})")
      (← policy.get "description")
    defaultRetentionDays := defaultRetentionDays.1
    tableName := tableName.1
    timestampColumn := timestampColumn.1
    filterCondition := filter.map Subtype.val
    positive := defaultRetentionDays.2
    tableNameAccepted := tableName.2
    timestampColumnAccepted := timestampColumn.2
    filterAccepted := by
      intro text htext
      obtain ⟨accepted, -, rfl⟩ := Option.map_eq_some_iff.mp htext
      exact accepted.2 }

/-! ## The statements -/

def filterText (pruner : DeclarativeTablePruner) : String :=
  match pruner.filterCondition with
  | some filter => " AND (" ++ filter ++ ")"
  | none => ""

def statements (pruner : DeclarativeTablePruner) : PruningStatements where
  countSql := "SELECT COUNT(*) as count FROM " ++ pruner.tableName ++ " WHERE " ++
    pruner.timestampColumn ++ " <= ?" ++ pruner.filterText
  deleteSql := "DELETE FROM " ++ pruner.tableName ++ " WHERE rowid IN (\n      SELECT rowid FROM " ++
    pruner.tableName ++ "\n      WHERE " ++ pruner.timestampColumn ++ " <= ?" ++ pruner.filterText ++
    "\n      LIMIT ?\n    )"
  cutoffs := 1

/-! ## The lexemes of the statements -/

/-! The fixed parts of the two statements. -/

def countText : List Char :=
  "SELECT COUNT(*) as count FROM ".toList

def deleteText : List Char :=
  "DELETE FROM ".toList

def batchText : List Char :=
  " WHERE rowid IN (\n      SELECT rowid FROM ".toList

def whereText : List Char :=
  " WHERE ".toList

def lineWhereText : List Char :=
  "\n      WHERE ".toList

def atMostText : List Char :=
  " <= ?".toList

def andText : List Char :=
  " AND (".toList

def limitText : List Char :=
  "\n      LIMIT ?\n    )".toList

section Lexing

variable {name rest : List Char}

def IsName (name : List Char) : Prop :=
  name ≠ [] ∧ name.all isIdentifierChar

theorem isName_of_accepts (haccepts : identifierPattern.accepts name) : IsName name := by
  rw [accepts_iff, identifierPattern, matches_plus_set] at haccepts
  exact ⟨haccepts.1, List.all_eq_true.mpr haccepts.2⟩

def nameLexeme (name : List Char) : Lexeme :=
  if name.head?.any SqliteText.isDigit then (nextNumber name).1 else .word name

theorem nameLexeme_cases (hname : IsName name) :
    nameLexeme name = .word name ∨ nameLexeme name = .number name ∨ nameLexeme name = .illegal := by
  have hid : name.all isIdChar := by
    have hall := hname.2
    rw [List.all_eq_true] at hall ⊢
    exact fun c hc => isIdChar_of_isIdentifierChar (hall c hc)
  rw [nameLexeme]
  split_ifs
  · exact .inr (nextNumber_word hid)
  · exact .inl rfl

def endsName (c : Char) : Bool :=
  endsNumber c && c ≠ '\x27'

theorem lexAll_name (hname : IsName name) (hrest : Begins endsName rest) :
    lexAll (name ++ rest) = nameLexeme name :: lexAll rest := by
  obtain ⟨hne, hall⟩ := hname
  have hends : ∀ c, endsName c → endsNumber c ∧ (!isIdChar c && decide (c ≠ '\x27')) = true := by
    intro c hc
    rw [endsName, Bool.and_eq_true] at hc
    exact ⟨hc.1, by rw [endsNumber_not_isIdChar hc.1, hc.2]; rfl⟩
  cases name with
  | nil => exact absurd rfl hne
  | cons c more =>
      rw [List.all_cons, Bool.and_eq_true] at hall
      rw [nameLexeme, List.head?_cons, Option.any_some]
      split_ifs with hdigit
      · refine lexAll_digits hdigit ?_ (hrest.mono fun d hd => (hends d hd).1)
        rw [List.all_eq_true]
        exact fun d hd => isIdChar_of_isIdentifierChar (List.all_eq_true.mp hall.2 d hd)
      · have hstart : isNameStart c := by
          have hc := hall.1
          simp only [isIdentifierChar, Char.isAlphanum, Bool.or_eq_true] at hc
          simp only [isNameStart, Bool.or_eq_true]
          rcases hc with (halpha | hnumeric) | hunderscore
          · exact .inl halpha
          · exact absurd (by simpa [SqliteText.isDigit, Char.isDigit, Char.le_def] using hnumeric)
              hdigit
          · exact .inr hunderscore
        exact lexAll_identifier ⟨c, more, rfl, hstart, hall.2⟩
          (hrest.mono fun d hd => (hends d hd).2)

def spaced (words : List (List Char)) (rest : List Char) : List Char :=
  words.foldr (fun word behind => word ++ ' ' :: behind) rest

theorem isIdentifier_iff {word : List Char} :
    IsIdentifier word ↔ word.head?.any isNameStart ∧ word.tail.all isIdentifierChar := by
  cases word with
  | nil =>
      constructor
      · rintro ⟨c, more, hword, -⟩
        cases hword
      · rintro ⟨hhead, -⟩
        cases hhead
  | cons c more =>
      constructor
      · rintro ⟨d, others, hword, hd, hothers⟩
        cases hword
        exact ⟨hd, hothers⟩
      · rintro ⟨hc, hmore⟩
        exact ⟨c, more, rfl, hc, hmore⟩

theorem begins_spaced {words : List (List Char)}
    (hwords : words.all fun word => word.head?.any isNameStart && word.tail.all isIdentifierChar)
    (hrest : Begins (fun d => d ≠ '\x0B') rest) :
    Begins (fun d => d ≠ '\x0B') (spaced words rest) := by
  cases words with
  | nil => exact hrest
  | cons word words =>
      rw [List.all_cons, Bool.and_eq_true, Bool.and_eq_true] at hwords
      obtain ⟨c, more, rfl, hc, -⟩ := isIdentifier_iff.mpr hwords.1
      rw [spaced, List.foldr_cons, List.cons_append, begins_cons, decide_eq_true_eq]
      rintro rfl
      exact absurd hc (by decide)

theorem lexAll_spacedWords {words : List (List Char)}
    (hwords : words.all fun word => word.head?.any isNameStart && word.tail.all isIdentifierChar)
    (hrest : Begins (fun d => d ≠ '\x0B') rest) :
    lexAll (spaced words rest) = words.map .word ++ lexAll rest := by
  induction words with
  | nil => rfl
  | cons word words ih =>
      rw [List.all_cons, Bool.and_eq_true, Bool.and_eq_true] at hwords
      have hword := isIdentifier_iff.mpr hwords.1
      have hunfold : spaced (word :: words) rest = word ++ ' ' :: spaced words rest := rfl
      rw [hunfold, lexAll_identifier hword (begins_cons.mpr (by decide)),
        lexAll_blank (by decide) (begins_spaced hwords.2 hrest), ih hwords.2]
      rfl

theorem lexAll_parameter (hrest : Begins (fun c => !SqliteText.isDigit c) rest) :
    lexAll ('?' :: rest) = .parameter ['?'] :: lexAll rest := by
  have hnil : ([] : List Char).all SqliteText.isDigit := rfl
  have htake := takeWhile_append_of_all hnil hrest
  apply lexAll_lexeme rfl
  have hstart : lexemeRest '?' rest =
      (.parameter ('?' :: rest.takeWhile SqliteText.isDigit), rest.dropWhile SqliteText.isDigit) := rfl
  rw [hstart]
  rw [List.nil_append] at htake
  rw [htake.1, htake.2]

theorem begins_name (hname : IsName name) : Begins isIdentifierChar (name ++ rest) :=
  begins_append (begins_of_all hname.2) fun hempty => absurd hempty hname.1

theorem begins_noTab (hname : IsName name) : Begins (fun d => d ≠ '\x0B') (name ++ rest) := by
  refine (begins_name hname).mono fun c hc => ?_
  rw [decide_eq_true_eq]
  rintro rfl
  exact absurd hc (by decide)

theorem lexAll_countHead (hrest : Begins (fun d => d ≠ '\x0B') rest) :
    lexAll (countText ++ rest) =
      [.word "SELECT".toList, .word "COUNT".toList, .symbol ['('], .symbol ['*'], .symbol [')'],
        .word "as".toList, .word "count".toList, .word "FROM".toList] ++ lexAll rest := by
  have hsplit : countText ++ rest =
      spaced ["SELECT".toList] ("COUNT".toList ++ '(' :: '*' :: ')' :: ' ' ::
        spaced ["as".toList, "count".toList, "FROM".toList] rest) := rfl
  have hwords : lexAll (spaced ["as".toList, "count".toList, "FROM".toList] rest) =
      [.word "as".toList, .word "count".toList, .word "FROM".toList] ++ lexAll rest :=
    lexAll_spacedWords (by decide) hrest
  rw [hsplit, lexAll_spacedWords (by decide) (by simp),
    lexAll_identifier (isIdentifier_iff.mpr (by decide)) (begins_cons.mpr (by decide)),
    lexAll_symbol (by decide) (by decide) (begins_cons.mpr (by decide)),
    lexAll_symbol (by decide) (by decide) (begins_cons.mpr (by decide)),
    lexAll_symbol (by decide) (by decide) (begins_cons.mpr (by decide)),
    lexAll_blank (by decide) (begins_spaced (by decide) hrest), hwords]
  rfl

theorem lexAll_deleteHead (hrest : Begins (fun d => d ≠ '\x0B') rest) :
    lexAll (deleteText ++ rest) =
      [.word "DELETE".toList, .word "FROM".toList] ++ lexAll rest := by
  have hsplit : deleteText ++ rest = spaced ["DELETE".toList, "FROM".toList] rest := rfl
  rw [hsplit]
  exact lexAll_spacedWords (by decide) hrest

theorem lexAll_deleteMiddle (hrest : Begins (fun d => d ≠ '\x0B') rest) :
    lexAll (batchText ++ rest) =
      [.word "WHERE".toList, .word "rowid".toList, .word "IN".toList, .symbol ['('],
        .word "SELECT".toList, .word "rowid".toList, .word "FROM".toList] ++ lexAll rest := by
  have hsplit : batchText ++ rest =
      ' ' :: spaced ["WHERE".toList, "rowid".toList, "IN".toList] ('(' :: ("\n      ".toList ++
        spaced ["SELECT".toList, "rowid".toList, "FROM".toList] rest)) := rfl
  have hopening : Begins (fun d => d ≠ '\x0B') ('(' :: ("\n      ".toList ++
      spaced ["SELECT".toList, "rowid".toList, "FROM".toList] rest)) := by simp
  rw [hsplit, lexAll_blank (by decide) (begins_spaced (by decide) hopening),
    lexAll_spacedWords (by decide) hopening,
    lexAll_symbol (by decide) (by decide) (by simp [pairs]),
    lexAll_blanks (by decide) (begins_spaced (by decide) hrest),
    lexAll_spacedWords (by decide) hrest]
  rfl

theorem lexAll_where (hrest : Begins (fun d => d ≠ '\x0B') rest) :
    lexAll (whereText ++ rest) = .word "WHERE".toList :: lexAll rest ∧
      lexAll (lineWhereText ++ rest) = .word "WHERE".toList :: lexAll rest := by
  have hword : lexAll (spaced ["WHERE".toList] rest) = .word "WHERE".toList :: lexAll rest :=
    lexAll_spacedWords (by decide) hrest
  have hbegins : Begins (fun d => d ≠ '\x0B') (spaced ["WHERE".toList] rest) :=
    begins_spaced (by decide) hrest
  have hsplit : whereText ++ rest = [' '] ++ spaced ["WHERE".toList] rest := rfl
  have hline : lineWhereText ++ rest = "\n      ".toList ++ spaced ["WHERE".toList] rest := rfl
  rw [hsplit, hline, lexAll_blanks (by decide) hbegins,
    lexAll_blanks (by decide) hbegins]
  exact ⟨hword, hword⟩

theorem lexAll_atMost (hrest : Begins (fun c => !SqliteText.isDigit c) rest) :
    lexAll (atMostText ++ rest) =
      [.symbol ['<', '='], .parameter ['?']] ++ lexAll rest := by
  have hsplit : atMostText ++ rest = ' ' :: '<' :: '=' :: ' ' :: '?' :: rest := rfl
  rw [hsplit, lexAll_blank (by decide) (begins_cons.mpr (by decide)),
    lexAll_pair (by decide) (by decide), lexAll_blank (by decide) (begins_cons.mpr (by decide)),
    lexAll_parameter hrest]
  rfl

theorem lexAll_limit : lexAll limitText = limitClause := by
  decide

theorem lexAll_andParen (hrest : Begins (fun d => d ≠ '\x0B') rest) :
    lexAll (andText ++ rest) = .word "AND".toList :: .symbol ['('] :: lexAll rest := by
  have hsplit : andText ++ rest = ' ' :: spaced ["AND".toList] ('(' :: rest) := rfl
  have hnone : Begins (fun d => ('(', d) ∉ pairs) rest := by
    cases rest with
    | nil => rfl
    | cons d more => simp [pairs]
  rw [hsplit, lexAll_blank (by decide) (begins_spaced (by decide) (by simp)),
    lexAll_spacedWords (by decide) (by simp), lexAll_symbol (by decide) (by decide) hnone]
  rfl

end Lexing

section Statements

variable (pruner : DeclarativeTablePruner)

def countChars (rest : List Char) : List Char :=
  countText ++ (pruner.tableName.toList ++ (whereText ++
    (pruner.timestampColumn.toList ++ (atMostText ++ rest))))

def deleteChars (rest : List Char) : List Char :=
  deleteText ++ (pruner.tableName.toList ++ (batchText ++ (pruner.tableName.toList ++
    (lineWhereText ++ (pruner.timestampColumn.toList ++ (atMostText ++ rest))))))

theorem countSql_toList : pruner.statements.countSql.toList =
    pruner.countChars pruner.filterText.toList := by
  have hparts : ∀ a b c d e f : String, (a ++ b ++ c ++ d ++ e ++ f).toList =
      a.toList ++ (b.toList ++ (c.toList ++ (d.toList ++ (e.toList ++ f.toList)))) := by
    intro a b c d e f
    simp only [String.toList_append, List.append_assoc]
  exact hparts _ _ _ _ _ _

theorem deleteSql_toList : pruner.statements.deleteSql.toList =
    pruner.deleteChars (pruner.filterText.toList ++ limitText) := by
  have hparts : ∀ a b c d e f g h i : String, (a ++ b ++ c ++ d ++ e ++ f ++ g ++ h ++ i).toList =
      a.toList ++ (b.toList ++ (c.toList ++ (d.toList ++ (e.toList ++ (f.toList ++
        (g.toList ++ (h.toList ++ i.toList))))))) := by
    intro a b c d e f g h i
    simp only [String.toList_append, List.append_assoc]
  exact hparts _ _ _ _ _ _ _ _ _

theorem isName_tableName : IsName pruner.tableName.toList :=
  isName_of_accepts pruner.tableNameAccepted

theorem isName_timestampColumn : IsName pruner.timestampColumn.toList :=
  isName_of_accepts pruner.timestampColumnAccepted

variable {pruner} {rest : List Char}

theorem texts_notNul : (countText ++ (deleteText ++ (batchText ++ (whereText ++ (lineWhereText ++
    (atMostText ++ (andText ++ limitText))))))).all notNul := by
  decide

theorem takeWhile_notNul :
    (pruner.countChars rest).takeWhile notNul = pruner.countChars (rest.takeWhile notNul) ∧
      (pruner.deleteChars rest).takeWhile notNul =
        pruner.deleteChars (rest.takeWhile notNul) := by
  have htable : pruner.tableName.toList.all notNul :=
    all_notNul pruner.isName_tableName.2 (by decide)
  have hcolumn : pruner.timestampColumn.toList.all notNul :=
    all_notNul pruner.isName_timestampColumn.2 (by decide)
  have htexts := texts_notNul
  simp only [List.all_append, Bool.and_eq_true] at htexts
  obtain ⟨hcount, hdelete, hbatch, hwhere, hline, hatMost, -⟩ := htexts
  constructor
  · rw [countChars, takeWhile_of_all hcount, takeWhile_of_all htable, takeWhile_of_all hwhere,
      takeWhile_of_all hcolumn, takeWhile_of_all hatMost, countChars]
  · rw [deleteChars, takeWhile_of_all hdelete, takeWhile_of_all htable, takeWhile_of_all hbatch,
      takeWhile_of_all htable, takeWhile_of_all hline, takeWhile_of_all hcolumn,
      takeWhile_of_all hatMost, deleteChars]

def countKeywords : List Lexeme :=
  [.word "SELECT".toList, .word "COUNT".toList, .symbol ['('], .symbol ['*'], .symbol [')'],
    .word "as".toList, .word "count".toList, .word "FROM".toList]

def conditionHead (pruner : DeclarativeTablePruner) : List Lexeme :=
  [nameLexeme pruner.timestampColumn.toList, .symbol ['<', '='], .parameter ['?']]

theorem begins_texts {p : Char → Bool} (hblank : p ' ') (hline : p '\n') :
    Begins p (whereText ++ rest) ∧ Begins p (batchText ++ rest) ∧
      Begins p (lineWhereText ++ rest) ∧ Begins p (atMostText ++ rest) :=
  ⟨begins_cons.mpr hblank, begins_cons.mpr hblank, begins_cons.mpr hline,
    begins_cons.mpr hblank⟩

theorem lexAll_condition (hrest : Begins (fun c => !SqliteText.isDigit c) rest) :
    lexAll (pruner.timestampColumn.toList ++ (atMostText ++ rest)) =
      pruner.conditionHead ++ lexAll rest := by
  obtain ⟨-, -, -, hatMost⟩ := @begins_texts rest endsName (by decide) (by decide)
  rw [lexAll_name pruner.isName_timestampColumn hatMost, lexAll_atMost hrest]
  rfl

theorem lexAll_countChars (hrest : Begins (fun c => !SqliteText.isDigit c) rest) :
    lexAll (pruner.countChars rest) =
      countKeywords ++ nameLexeme pruner.tableName.toList :: .word "WHERE".toList ::
        (pruner.conditionHead ++ lexAll rest) := by
  obtain ⟨hwhere, -⟩ := @begins_texts
    (pruner.timestampColumn.toList ++ (atMostText ++ rest)) endsName (by decide) (by decide)
  rw [countChars, lexAll_countHead (begins_noTab pruner.isName_tableName),
    lexAll_name pruner.isName_tableName hwhere,
    (lexAll_where (begins_noTab pruner.isName_timestampColumn)).1, lexAll_condition hrest]
  rfl

theorem lexAll_deleteChars (hrest : Begins (fun c => !SqliteText.isDigit c) rest) :
    lexAll (pruner.deleteChars rest) =
      .word "DELETE".toList :: .word "FROM".toList :: nameLexeme pruner.tableName.toList ::
        .word "WHERE".toList :: .word "rowid".toList :: .word "IN".toList :: .symbol ['('] ::
        .word "SELECT".toList :: .word "rowid".toList :: .word "FROM".toList ::
        nameLexeme pruner.tableName.toList :: .word "WHERE".toList ::
        (pruner.conditionHead ++ lexAll rest) := by
  let condition := pruner.timestampColumn.toList ++ (atMostText ++ rest)
  obtain ⟨-, -, hline, -⟩ := @begins_texts condition endsName (by decide) (by decide)
  obtain ⟨-, hbatch, -, -⟩ := @begins_texts
    (pruner.tableName.toList ++ (lineWhereText ++ condition)) endsName (by decide) (by decide)
  rw [deleteChars, lexAll_deleteHead (begins_noTab pruner.isName_tableName),
    lexAll_name pruner.isName_tableName hbatch,
    lexAll_deleteMiddle (begins_noTab pruner.isName_tableName),
    lexAll_name pruner.isName_tableName hline,
    (lexAll_where (begins_noTab pruner.isName_timestampColumn)).2, lexAll_condition hrest]
  rfl

end Statements

/-! ## The condition -/

inductive StandsFor (name : List Char) : Expr → Prop
  | column : StandsFor name (.name name)
  | number : StandsFor name (.number name)
  | null (hnull : keywordOf name = "NULL") : StandsFor name .null

def isPlain (lexeme : Lexeme) : Bool :=
  lexeme ≠ .symbol ['('] && lexeme ≠ .symbol [')'] && lexeme ≠ .parameter ['?']

variable {lexemes : List Lexeme}

theorem isPlain_literal (hlexemes : IsLiteralLexemes lexemes) :
    lexemes.all isPlain := by
  cases hlexemes with
  | text chars => rfl
  | number chars => rfl
  | signed hsign chars =>
      rcases hsign with rfl | rfl
      · rfl
      · rfl
  | keyword hword => rfl

theorem isPlain_null (hlexemes : IsNullLexemes lexemes) :
    lexemes.all isPlain := by
  cases hlexemes with
  | null hnull => rfl
  | notNull hnot hnull => rfl

theorem isPlain_test (hlexemes : IsTestLexemes lexemes) :
    lexemes.all isPlain := by
  cases hlexemes with
  | comparison column hop hliteral =>
      rw [List.all_cons, List.all_cons, isPlain_literal hliteral]
      simp only [operators, List.mem_cons, List.not_mem_nil, or_false] at hop
      rcases hop with rfl | rfl | rfl | rfl | rfl | rfl | rfl
      all_goals rfl
  | nullTest column his hnull =>
      rw [List.all_cons, List.all_cons, isPlain_null hnull]
      rfl

theorem isPlain_joined (hlexemes : IsJoinedLexemes lexemes) :
    lexemes.all isPlain := by
  obtain ⟨column, hnull⟩ := hlexemes
  rw [List.all_cons, isPlain_null hnull]
  rfl

inductive IsFilterPart : List Lexeme → Prop
  | none : IsFilterPart []
  | some {lexemes : List Lexeme} (hplain : lexemes.all isPlain) :
      IsFilterPart (.word "AND".toList :: .symbol ['('] :: (lexemes ++ [.symbol [')']]))

section Condition

variable {pruner : DeclarativeTablePruner} {part : List Lexeme}

theorem read_conditionHead :
    Reader.read ⟨[], .operand, 0⟩ pruner.conditionHead = none ∨
      ∃ column, StandsFor pruner.timestampColumn.toList column ∧
        Reader.read ⟨[], .operand, 0⟩ pruner.conditionHead =
          some ⟨[.infixed .le column], .operator (.parameter 0), 1⟩ := by
  have hbehind : ∀ column, Reader.read ⟨[], .operator column, 0⟩
      [.symbol ['<', '='], .parameter ['?']] =
        some ⟨[.infixed .le column], .operator (.parameter 0), 1⟩ := fun _ => rfl
  unfold conditionHead
  rcases nameLexeme_cases pruner.isName_timestampColumn with hword | hnumber | hillegal
  · rw [hword, Reader.read, List.foldlM_cons]
    simp only [Reader.step, Reader.readOperand]
    by_cases hnot : keywordOf pruner.timestampColumn.toList = "NOT"
    · left
      rw [if_pos hnot]
      rfl
    · rw [if_neg hnot, if_neg (by simp), operandWord]
      split_ifs with hnull hreserved
      · exact .inr ⟨.null, .null hnull, hbehind .null⟩
      · exact .inl rfl
      · exact .inr ⟨_, .column, hbehind _⟩
  · rw [hnumber]
    exact .inr ⟨_, .number, hbehind _⟩
  · rw [hillegal]
    exact .inl rfl

theorem parse_condition (hpart : IsFilterPart part) {expr : Expr}
    (hparse : parse (pruner.conditionHead ++ part) = some expr) :
    ∃ column, StandsFor pruner.timestampColumn.toList column ∧
      (expr = .binary .le column (.parameter 0) ∨
        ∃ filter, expr = .binary .and (.binary .le column (.parameter 0)) filter) := by
  rcases @read_conditionHead pruner with hnone | ⟨column, hcolumn, hread⟩
  · rw [parse, Reader.read_append, hnone] at hparse
    cases hparse
  · refine ⟨column, hcolumn, ?_⟩
    cases hpart with
    | none =>
        rw [List.append_nil, parse, hread] at hparse
        cases hparse
        exact .inl rfl
    | @some lexemes hplain =>
        have hparens : Reader.WithoutParens lexemes := by
          rw [List.all_eq_true] at hplain
          constructor
          · exact fun hmem => absurd (hplain _ hmem) (by decide)
          · exact fun hmem => absurd (hplain _ hmem) (by decide)
        exact .inr (parse_and_parens hread rfl rfl hparens hparse)

theorem count_parameters (hpart : IsFilterPart part) :
    (pruner.conditionHead ++ part).count (.parameter ['?']) = 1 := by
  have hname : nameLexeme pruner.timestampColumn.toList ≠ .parameter ['?'] := by
    rcases nameLexeme_cases pruner.isName_timestampColumn with hword | hnumber | hillegal
    · simp [hword]
    · simp [hnumber]
    · simp [hillegal]
  have hhead : pruner.conditionHead.count (.parameter ['?']) = 1 := by
    rw [conditionHead, List.count_cons_of_ne hname]
    rfl
  have hnone : part.count (.parameter ['?']) = 0 := by
    cases hpart with
    | none => rfl
    | @some lexemes hplain =>
        rw [List.count_eq_zero]
        rw [List.all_eq_true] at hplain
        intro hmem
        simp only [List.mem_cons, reduceCtorEq, List.mem_append, List.not_mem_nil, or_false,
          false_or] at hmem
        exact absurd (hplain _ hmem) (by decide)
  rw [List.count_append, hhead, hnone]

/-! ### Reading the statements -/

def HoldsNul (pruner : DeclarativeTablePruner) : Prop :=
  ∃ filter, pruner.filterCondition = some filter ∧ '\x00' ∈ filter.toList

theorem accepted_filter {filter : String} (hfilter : pruner.filterCondition = some filter) :
    Accepted filter.toList := by
  have haccepts := pruner.filterAccepted filter hfilter
  rw [accepts_iff] at haccepts
  exact accepted_of_matches haccepts

theorem filterText_toList {filter : String} (hfilter : pruner.filterCondition = some filter) :
    pruner.filterText.toList = andText ++ (filter.toList ++ [')']) := by
  have hparts : ∀ a b c : String, (a ++ b ++ c).toList = a.toList ++ (b.toList ++ c.toList) := by
    intro a b c
    simp only [String.toList_append, List.append_assoc]
  rw [filterText, hfilter]
  exact hparts _ _ _

theorem begins_filter {filter rest : List Char} (haccepted : Accepted filter) :
    Begins (fun d => d ≠ '\x0B') (filter ++ rest) := by
  have hfirst : ∀ {before word more : List Char}, IsBlanks before → IsIdentifier word →
      Begins (fun d => d ≠ '\x0B') (before ++ (word ++ more)) := by
    intro before word more hbefore hword
    refine begins_blanks hbefore (by decide) fun _ => ?_
    obtain ⟨c, others, rfl, hc, -⟩ := hword
    rw [List.cons_append, begins_cons, decide_eq_true_eq]
    rintro rfl
    exact absurd hc (by decide)
  cases haccepted with
  | comparison hbefore hword hbetween htest hafter =>
      simp only [List.append_assoc]
      exact hfirst hbefore hword
  | nullTest hbefore hword hbetween hne htest hafter =>
      simp only [List.append_assoc]
      exact hfirst hbefore hword
  | joined hbefore hword htest hafter =>
      simp only [List.append_assoc]
      exact hfirst hbefore hword

theorem lexAll_filterText (pruner : DeclarativeTablePruner) :
    ∃ part, IsFilterPart part ∧ ∀ rest, Begins (fun c => c = '\n') rest →
      lexAll (pruner.filterText.toList ++ rest) = part ++ lexAll rest := by
  cases hfilter : pruner.filterCondition with
  | none =>
      refine ⟨[], .none, fun rest _ => ?_⟩
      rw [filterText, hfilter]
      rfl
  | some filter =>
      have haccepted := accepted_filter hfilter
      obtain ⟨lexemes, hlex, hlexemes⟩ := lexAll_accepted haccepted
      have hplain : lexemes.all isPlain := by
        rcases hlexemes with ⟨-, htest⟩ | ⟨-, hjoined⟩
        · exact isPlain_test htest
        · exact isPlain_joined hjoined
      refine ⟨_, .some hplain, fun rest _ => ?_⟩
      have hnone : Begins (fun d => (')', d) ∉ pairs) rest := by
        cases rest with
        | nil => rfl
        | cons d more => simp [pairs]
      rw [filterText_toList hfilter, List.append_assoc, List.append_assoc,
        lexAll_andParen (begins_filter haccepted), List.singleton_append,
        hlex _ (begins_cons.mpr (by decide)), lexAll_symbol (by decide) (by decide) hnone]
      simp only [List.cons_append, List.append_assoc, List.nil_append]

theorem lexAll_filterText_of_nul (hnul : pruner.HoldsNul) (rest : List Char) :
    Begins (fun c => !SqliteText.isDigit c) ((pruner.filterText.toList ++ rest).takeWhile notNul) ∧
      ∃ column op, lexAll ((pruner.filterText.toList ++ rest).takeWhile notNul) =
        [.word "AND".toList, .symbol ['('], .word column, .symbol op, .illegal] := by
  obtain ⟨filter, hfilter, hmem⟩ := hnul
  have haccepted := accepted_filter hfilter
  obtain ⟨column, op, hlex⟩ := lexAll_takeWhile_of_nul haccepted hmem
  have hand : andText.all notNul := by decide
  have hbegins : Begins (fun d => d ≠ '\x0B') (filter.toList.takeWhile notNul) := by
    have hwhole := @begins_filter filter.toList [] haccepted
    rw [List.append_nil] at hwhole
    cases hchars : filter.toList with
    | nil => rfl
    | cons c rest =>
        rw [hchars] at hwhole
        rw [List.takeWhile_cons]
        split
        · exact begins_cons.mpr (begins_cons.mp hwhole)
        · rfl
  rw [filterText_toList hfilter, List.append_assoc, List.append_assoc, takeWhile_of_all hand,
    takeWhile_of_nul hmem]
  refine ⟨begins_cons.mpr (by decide), column, op, ?_⟩
  rw [lexAll_andParen hbegins, hlex]

theorem begins_filterText {rest : List Char} (hrest : Begins (fun c => c = '\n') rest) :
    Begins (fun c => !SqliteText.isDigit c) (pruner.filterText.toList ++ rest) := by
  cases hfilter : pruner.filterCondition with
  | none =>
      rw [filterText, hfilter]
      refine hrest.mono fun c hc => ?_
      rw [of_decide_eq_true hc]
      decide
  | some filter =>
      rw [filterText_toList hfilter]
      exact begins_cons.mpr (by decide)

theorem filterText_notNul (hnul : ¬ pruner.HoldsNul) : pruner.filterText.toList.all notNul := by
  cases hfilter : pruner.filterCondition with
  | none =>
      rw [filterText, hfilter]
      rfl
  | some filter =>
      have hand : andText.all notNul := by decide
      have hall : filter.toList.all notNul := by
        rw [List.all_eq_true]
        intro c hc
        rw [notNul, decide_eq_true_eq]
        rintro rfl
        exact hnul ⟨filter, hfilter, hc⟩
      rw [filterText_toList hfilter, List.all_append, List.all_append, hand, hall]
      rfl

theorem parseCount_countKeywords (table : Lexeme) (condition : List Lexeme) :
    parseCount (countKeywords ++ table :: .word "WHERE".toList :: condition) =
      (SqliteText.tableName table).bind fun name =>
        (parse condition).map fun expr => { table := name, condition := expr } := by
  have hkeywords : areKeywords ["SELECT", "COUNT", "AS", "COUNT", "FROM", "WHERE"]
      [.word "SELECT".toList, .word "COUNT".toList, .word "as".toList, .word "count".toList,
        .word "FROM".toList, .word "WHERE".toList] := by
    decide
  simp only [countKeywords, List.cons_append, List.nil_append, parseCount, hkeywords, if_true]
  cases SqliteText.tableName table with
  | none => rfl
  | some name => cases parse condition <;> rfl

theorem parse_statements (hnul : ¬ pruner.HoldsNul) :
    ∃ part, IsFilterPart part ∧
      (parseCount (lex pruner.statements.countSql.toList) =
        (SqliteText.tableName (nameLexeme pruner.tableName.toList)).bind fun name =>
          (parse (pruner.conditionHead ++ part)).map fun expr =>
            { table := name, condition := expr }) ∧
      parseDelete (lex pruner.statements.deleteSql.toList) =
        readBatch (nameLexeme pruner.tableName.toList) (nameLexeme pruner.tableName.toList)
          (pruner.conditionHead ++ part) := by
  obtain ⟨part, hpart, hlex⟩ := lexAll_filterText pruner
  have hfilter := filterText_notNul hnul
  have hlimit : limitText.all notNul := by decide
  have hbeginsLimit : Begins (fun c => c = '\n') limitText := begins_cons.mpr (by decide)
  have hcut := hlex [] (begins_nil _)
  have hbegins := @begins_filterText pruner [] (begins_nil _)
  have hpartNil : part ++ lexAll [] = part := List.append_nil part
  rw [List.append_nil] at hcut hbegins
  rw [hpartNil] at hcut
  have hwholeFilter : pruner.filterText.toList.takeWhile notNul = pruner.filterText.toList :=
    List.takeWhile_eq_self_iff.mpr (List.all_eq_true.mp hfilter)
  have hwholeLimit : (pruner.filterText.toList ++ limitText).takeWhile notNul =
      pruner.filterText.toList ++ limitText := by
    rw [takeWhile_of_all hfilter, List.takeWhile_eq_self_iff.mpr (List.all_eq_true.mp hlimit)]
  refine ⟨part, hpart, ?_, ?_⟩
  · have hcount : lex pruner.statements.countSql.toList =
        lexAll ((pruner.countChars pruner.filterText.toList).takeWhile notNul) := by
      rw [← countSql_toList]
      rfl
    rw [hcount, takeWhile_notNul.1, hwholeFilter, lexAll_countChars hbegins, hcut,
      parseCount_countKeywords]
  · have hdelete : lex pruner.statements.deleteSql.toList =
        lexAll ((pruner.deleteChars (pruner.filterText.toList ++ limitText)).takeWhile notNul) := by
      rw [← deleteSql_toList]
      rfl
    rw [hdelete, takeWhile_notNul.2, hwholeLimit,
      lexAll_deleteChars (begins_filterText hbeginsLimit), hlex _ hbeginsLimit, lexAll_limit,
      ← List.append_assoc]
    exact parseDelete_limitClause (by decide)

theorem parse_statements_of_nul (hnul : pruner.HoldsNul) :
    parseCount (lex pruner.statements.countSql.toList) = none ∧
      parseDelete (lex pruner.statements.deleteSql.toList) = none := by
  constructor
  · obtain ⟨hbegins, column, op, hlex⟩ := lexAll_filterText_of_nul hnul []
    have hcount : lex pruner.statements.countSql.toList =
        lexAll ((pruner.countChars (pruner.filterText.toList ++ [])).takeWhile notNul) := by
      rw [List.append_nil, ← countSql_toList]
      rfl
    have hnone : parse (pruner.conditionHead ++
        [.word "AND".toList, .symbol ['('], .word column, .symbol op, .illegal]) = none :=
      parse_eq_none Reader.step_illegal (by simp)
    rw [hcount, takeWhile_notNul.1, lexAll_countChars hbegins, hlex, parseCount_countKeywords,
      hnone]
    cases SqliteText.tableName (nameLexeme pruner.tableName.toList) <;> rfl
  · obtain ⟨hbegins, column, op, hlex⟩ := lexAll_filterText_of_nul hnul limitText
    have hdelete : lex pruner.statements.deleteSql.toList =
        lexAll ((pruner.deleteChars (pruner.filterText.toList ++ limitText)).takeWhile notNul) := by
      rw [← deleteSql_toList]
      rfl
    rw [hdelete, takeWhile_notNul.2, lexAll_deleteChars hbegins, hlex]
    apply parseDelete_eq_none
    simp [List.getLast?_cons]

theorem tableName_nameLexeme {name found : List Char} (hname : IsName name)
    (htable : SqliteText.tableName (nameLexeme name) = some found) : found = name := by
  rcases nameLexeme_cases hname with hword | hnumber | hillegal
  · simp only [hword, SqliteText.tableName, Option.ite_none_left_eq_some, Option.some.injEq]
      at htable
    exact htable.2.symm
  · rw [hnumber] at htable
    cases htable
  · rw [hillegal] at htable
    cases htable

theorem statements_agree (pruner : DeclarativeTablePruner) : pruner.statements.Agree := by
  by_cases hnul : pruner.HoldsNul
  · obtain ⟨hcount, hdelete⟩ := parse_statements_of_nul hnul
    rw [PruningStatements.Agree, hcount, hdelete]
    rfl
  · obtain ⟨part, hpart, hcount, hdelete⟩ := parse_statements hnul
    rw [PruningStatements.Agree, hcount, hdelete, readBatch, count_parameters hpart]
    cases SqliteText.tableName (nameLexeme pruner.tableName.toList) with
    | none => rfl
    | some name =>
        cases parse (pruner.conditionHead ++ part) with
        | none => rfl
        | some expr => rfl

theorem parseDelete_eq_some {statement : BatchDelete}
    (hparse : parseDelete (lex pruner.statements.deleteSql.toList) = some statement) :
    statement.table = pruner.tableName.toList ∧ statement.source = statement.table ∧
      ∃ column, StandsFor pruner.timestampColumn.toList column ∧
        (statement.condition = .binary .le column (.parameter 0) ∨
          ∃ filter, statement.condition =
            .binary .and (.binary .le column (.parameter 0)) filter) := by
  by_cases hnul : pruner.HoldsNul
  · rw [(parse_statements_of_nul hnul).2] at hparse
    cases hparse
  · obtain ⟨part, hpart, -, hdelete⟩ := parse_statements hnul
    rw [hdelete] at hparse
    obtain ⟨table, htable, hrest⟩ := Option.bind_eq_some_iff.mp hparse
    obtain ⟨source, hsource, hbody⟩ := Option.bind_eq_some_iff.mp hrest
    obtain ⟨expr, hexpr, hstatement⟩ := Option.bind_eq_some_iff.mp hbody
    cases hstatement
    have hsame := tableName_nameLexeme pruner.isName_tableName htable
    rw [hsource, Option.some.injEq] at htable
    exact ⟨hsame, htable, parse_condition hpart hexpr⟩

end Condition

/-! ## Narrowing -/

/-- A batch which SQLite takes deletes only rows of the table whose column is not later than the
cutoff. -/
def DeletesOnlyOld (pruner : DeclarativeTablePruner) : Prop :=
  ∀ interpretation cutoff batchSize scan database later rowsAffected,
    pruner.statements.deleteBatch interpretation cutoff batchSize scan database =
      .ok (later, rowsAffected) →
    ∃ table column rowids, database.find? pruner.tableName.toList = some table ∧
      StandsFor pruner.timestampColumn.toList column ∧
      later = database.update pruner.tableName.toList (fun other => other.without rowids) ∧
      ∀ row ∈ table.rows, row.rowid ∈ rowids →
        holds interpretation [.text cutoff.iso, .integer batchSize] row
          (.binary .le column (.parameter 0))

theorem deletesOnlyOld (pruner : DeclarativeTablePruner) : pruner.DeletesOnlyOld := by
  intro interpretation cutoff batchSize scan database later rowsAffected hbatch
  unfold PruningStatements.deleteBatch at hbatch
  split at hbatch
  · cases hbatch
  · rename_i statement hparse
    obtain ⟨htable, hsource, column, hcolumn, hcondition⟩ := parseDelete_eq_some hparse
    cases hrun : statement.run interpretation
        (pruner.statements.cutoffParams cutoff ++ [.integer batchSize]) scan database with
    | error message =>
        rw [hrun] at hbatch
        cases hbatch
    | ok result =>
        rw [hrun] at hbatch
        cases hbatch
        obtain ⟨table, limit, hfind, hlater⟩ := BatchDelete.run_ok hsource hrun
        rw [htable] at hfind hlater
        refine ⟨table, column, _, hfind, hcolumn, hlater, fun row hrow hmem => ?_⟩
        rw [Table.rowid_mem_chosen hrow] at hmem
        have hholds := (List.mem_filter.mp (Table.chosen_subset hmem)).2
        rcases hcondition with hplain | ⟨filter, hnarrowed⟩
        · rw [hplain] at hholds
          exact hholds
        · rw [hnarrowed] at hholds
          exact (holds_and.mp hholds).1

end DeclarativeTablePruner

end TauriPlatform
