import Mathlib.Data.List.Basic
import Mathlib.Data.List.TakeWhile
import Mathlib.Data.UInt

/-!
# Plain prepared statements

The question marks of a format are replaced in place, one parameter after the other, and each search goes on
behind the literal that was put in.
-/

namespace Mangos

def questionMark : UInt8 := 0x3F

def quoteByte : UInt8 := 0x27

def backslashByte : UInt8 := 0x5C

/-- `SqlStmtFieldData`; a string is set from a C string, so it has no zero, and floating-point numbers are
known by their bits. -/
inductive SqlStmtFieldData
  | bool (value : Bool)
  | ui8 (value : UInt8)
  | ui16 (value : UInt16)
  | ui32 (value : UInt32)
  | ui64 (value : UInt64)
  | i8 (value : Int8)
  | i16 (value : Int16)
  | i32 (value : Int32)
  | i64 (value : Int64)
  | float (bits : UInt32)
  | double (bits : UInt64)
  | string (text : { text : List UInt8 // 0 ∉ text })
  | none

/-- What the database and the stream do with texts: `escape_string` of the connection, and `operator<<` of
floating-point numbers. -/
structure SqlFormatter where
  escape : List UInt8 → List UInt8
  showFloat : UInt32 → List UInt8
  showDouble : UInt64 → List UInt8

def decimal (n : Int) : List UInt8 :=
  (if n < 0 then [0x2D] else []) ++ (Nat.toDigits 10 n.natAbs).map (UInt8.ofNat ·.toNat)

def quoted (text : List UInt8) : List UInt8 := quoteByte :: (text ++ [quoteByte])

namespace SqlFormatter

variable (f : SqlFormatter)

/-- `Database::escape_string`, which copies the buffer up to its first zero. -/
def escapeString (text : List UInt8) : List UInt8 :=
  if text = [] then text else (f.escape text).takeWhile (· ≠ 0)

def dataToString : SqlStmtFieldData → List UInt8
  | .bool value => quoted (decimal value.toNat)
  | .ui8 value => quoted (decimal value.toNat)
  | .ui16 value => quoted (decimal value.toNat)
  | .ui32 value => quoted (decimal value.toNat)
  | .ui64 value => quoted (decimal value.toNat)
  | .i8 value => quoted (decimal value.toInt)
  | .i16 value => quoted (decimal value.toInt)
  | .i32 value => quoted (decimal value.toInt)
  | .i64 value => quoted (decimal value.toInt)
  | .float bits => quoted (f.showFloat bits)
  | .double bits => quoted (f.showDouble bits)
  | .string text => quoted (f.escapeString text.1)
  | .none => []

/-- `find('?', pos)`. -/
def findMark (request : List UInt8) (pos : Nat) : Option Nat :=
  ((request.drop pos).findIdx? (· = questionMark)).map (pos + ·)

/-- The loop of `bind`; the last position is `npos` when no mark was found. -/
def bindLoop : List SqlStmtFieldData → List UInt8 → Option Nat → List UInt8
  | [], request, _ => request
  | data :: args, request, lastPos =>
    match lastPos.bind (findMark request) with
    | .none => bindLoop args request .none
    | some pos =>
      bindLoop args (request.take pos ++ f.dataToString data ++ request.drop (pos + 1))
        (some (pos + (f.dataToString data).length))

/-- `SqlPlainPreparedStatement::bind`, nothing where the assertion about the parameters fails. -/
def bind (fmt : List UInt8) (params : List SqlStmtFieldData) : Option (List UInt8) :=
  if fmt.count questionMark ≠ params.length then .none else some (f.bindLoop params fmt (some 0))

end SqlFormatter

/-- The format with a literal in the place of each question mark. -/
def fillMarks : List UInt8 → List (List UInt8) → List UInt8
  | [], _ => []
  | c :: fmt, [] => c :: fillMarks fmt []
  | c :: fmt, literal :: literals =>
    if c = questionMark then literal ++ fillMarks fmt literals else c :: fillMarks fmt (literal :: literals)

namespace SqlFormatter

variable (f : SqlFormatter)

theorem fillMarks_nil (fmt : List UInt8) : fillMarks fmt [] = fmt := by
  induction fmt with
  | nil => rfl
  | cons c fmt ih => rw [fillMarks, ih]

theorem fillMarks_cons {before fmt : List UInt8} (h : questionMark ∉ before) (literal : List UInt8)
    (literals : List (List UInt8)) : fillMarks (before ++ questionMark :: fmt) (literal :: literals) =
      before ++ (literal ++ fillMarks fmt literals) := by
  induction before with
  | nil => rw [List.nil_append, fillMarks, if_pos rfl, List.nil_append]
  | cons c before ih =>
    rw [List.mem_cons, not_or] at h
    rw [List.cons_append, fillMarks, if_neg (Ne.symm h.1), ih h.2, List.cons_append]

theorem findMark_eq {before : List UInt8} (h : questionMark ∉ before) (done fmt : List UInt8) :
    findMark (done ++ (before ++ questionMark :: fmt)) done.length = some (done.length + before.length) := by
  have hfind : (before ++ questionMark :: fmt).findIdx? (· = questionMark) = some before.length := by
    induction before with
    | nil =>
      rw [List.nil_append, List.findIdx?_cons, decide_eq_true rfl]
      rfl
    | cons c before ih =>
      rw [List.mem_cons, not_or] at h
      rw [List.cons_append, List.findIdx?_cons, decide_eq_false (Ne.symm h.1), ih h.2]
      rfl
  rw [findMark, List.drop_left, hfind, Option.map_some]

theorem bindLoop_eq (params : List SqlStmtFieldData) {done fmt : List UInt8}
    (h : params.length ≤ fmt.count questionMark) :
    f.bindLoop params (done ++ fmt) (some done.length) = done ++ fillMarks fmt (params.map f.dataToString) := by
  induction params generalizing done fmt with
  | nil => rw [List.map_nil, fillMarks_nil, bindLoop]
  | cons data params ih =>
    have hmem : questionMark ∈ fmt := by
      apply List.count_pos_iff.mp
      rw [List.length_cons] at h
      omega
    obtain ⟨before, fmt, rfl, hnot⟩ := List.eq_append_cons_of_mem hmem
    have hcount : (before ++ questionMark :: fmt).count questionMark = fmt.count questionMark + 1 := by
      rw [List.count_append, List.count_cons_self, List.count_eq_zero.mpr hnot, Nat.zero_add]
    have hrest : params.length ≤ fmt.count questionMark := by
      rw [hcount, List.length_cons] at h
      omega
    have htake : (done ++ (before ++ questionMark :: fmt)).take (done.length + before.length) = done ++ before := by
      rw [← List.append_assoc, ← List.length_append, List.take_left]
    have hdrop : (done ++ (before ++ questionMark :: fmt)).drop (done.length + before.length + 1) = fmt := by
      have hsplit : done ++ (before ++ questionMark :: fmt) = (done ++ before ++ [questionMark]) ++ fmt := by simp
      have hlength : done.length + before.length + 1 = (done ++ before ++ [questionMark]).length := by
        simp [Nat.add_assoc]
      rw [hsplit, hlength, List.drop_left]
    have hlast : done.length + before.length + (f.dataToString data).length =
        (done ++ before ++ f.dataToString data).length := by
      rw [List.length_append, List.length_append]
    rw [bindLoop, Option.bind_some, findMark_eq hnot]
    dsimp only
    rw [htake, hdrop, hlast, ih hrest, List.map_cons, fillMarks_cons hnot]
    simp only [List.append_assoc]

end SqlFormatter

def escapeSequence (c : UInt8) : List UInt8 :=
  if c = 0x30 then [0]
  else if c = 0x62 then [0x08]
  else if c = 0x6E then [0x0A]
  else if c = 0x72 then [0x0D]
  else if c = 0x74 then [0x09]
  else if c = 0x5A then [0x1A]
  else if c = 0x25 ∨ c = 0x5F then [backslashByte, c]
  else [c]

/-- The text of a literal behind its opening quote, and what follows it. A quote twice stands for one. -/
def readLiteral : List UInt8 → Option (List UInt8 × List UInt8)
  | [] => none
  | [c] => if c = quoteByte then some ([], []) else none
  | c :: d :: rest =>
    if c = quoteByte then
      if d = quoteByte then (readLiteral rest).map fun p => (quoteByte :: p.1, p.2) else some ([], d :: rest)
    else if c = backslashByte then (readLiteral rest).map fun p => (escapeSequence d ++ p.1, p.2)
    else (readLiteral (d :: rest)).map fun p => (c :: p.1, p.2)

/-- `escape_string` works byte by byte: a byte stays, unless it is a quote or a backslash, or it becomes a
backslash and a byte that stand for it. -/
def EscapesQuotes (escape : List UInt8 → List UInt8) : Prop :=
  ∃ esc : UInt8 → List UInt8, (∀ text, escape text = text.flatMap esc) ∧ ∀ c, c ≠ 0 →
    (esc c = [c] ∧ c ≠ quoteByte ∧ c ≠ backslashByte) ∨ ∃ e, e ≠ 0 ∧ esc c = [backslashByte, e] ∧ escapeSequence e = [c]

theorem readLiteral_cons {c : UInt8} (hquote : c ≠ quoteByte) (hbackslash : c ≠ backslashByte) {rest : List UInt8}
    (hne : rest ≠ []) : readLiteral (c :: rest) = (readLiteral rest).map fun p => (c :: p.1, p.2) := by
  cases rest with
  | nil => exact absurd rfl hne
  | cons d rest => rw [readLiteral, if_neg hquote, if_neg hbackslash]

theorem readLiteral_quote {rest : List UInt8} (h : rest.head? ≠ some quoteByte) :
    readLiteral (quoteByte :: rest) = some ([], rest) := by
  cases rest with
  | nil => rfl
  | cons d rest =>
    have hd : d ≠ quoteByte := fun heq => h (congrArg some heq)
    rw [readLiteral, if_pos rfl, if_neg hd]

theorem readLiteral_escape {f : SqlFormatter} (h : EscapesQuotes f.escape) {text rest : List UInt8}
    (hzero : 0 ∉ text) (hrest : rest.head? ≠ some quoteByte) :
    readLiteral (f.escapeString text ++ quoteByte :: rest) = some (text, rest) := by
  obtain ⟨esc, hescape, hesc⟩ := h
  have hnozero : ∀ text : List UInt8, 0 ∉ text → ∀ c ∈ text.flatMap esc, c ≠ 0 := by
    intro text hzero c hc
    obtain ⟨d, hd, hcd⟩ := List.mem_flatMap.mp hc
    have hne : d ≠ 0 := fun heq => hzero (heq ▸ hd)
    obtain ⟨hstays, -, -⟩ | ⟨e, he, hbecomes, -⟩ := hesc d hne
    · rw [hstays, List.mem_singleton] at hcd
      exact hcd ▸ hne
    · rw [hbecomes, List.mem_cons, List.mem_singleton] at hcd
      rcases hcd with rfl | rfl
      · decide
      · exact he
  have hstring : f.escapeString text = text.flatMap esc := by
    rw [SqlFormatter.escapeString]
    split
    next hnil => rw [hnil, List.flatMap_nil]
    next =>
      rw [hescape]
      apply List.takeWhile_eq_self_iff.mpr
      intro c hc
      exact decide_eq_true (hnozero text hzero c hc)
  rw [hstring]
  clear hstring
  induction text with
  | nil => exact readLiteral_quote hrest
  | cons c text ih =>
    rw [List.mem_cons, not_or] at hzero
    have hmore := ih hzero.2
    have hne : text.flatMap esc ++ quoteByte :: rest ≠ [] := by simp
    rw [List.flatMap_cons, List.append_assoc]
    obtain ⟨hstays, hquote, hbackslash⟩ | ⟨e, -, hbecomes, hdenotes⟩ := hesc c (Ne.symm hzero.1)
    · rw [hstays, List.singleton_append, readLiteral_cons hquote hbackslash hne, hmore, Option.map_some]
    · rw [hbecomes, List.cons_append, List.singleton_append, readLiteral, if_neg (by decide), if_pos rfl, hmore,
        Option.map_some, hdenotes, List.singleton_append]

/-- The question marks of the format are replaced, nothing else is changed, and each string's literal is read as
that string. -/
theorem bind_exact {f : SqlFormatter} (h : EscapesQuotes f.escape) {fmt : List UInt8}
    {params : List SqlStmtFieldData} (hcount : params.length = fmt.count questionMark) :
    f.bind fmt params = some (fillMarks fmt (params.map f.dataToString)) ∧
      ∀ text, .string text ∈ params → ∀ rest : List UInt8, rest.head? ≠ some quoteByte →
        ∃ literal, f.dataToString (.string text) ++ rest = quoteByte :: literal ∧
          readLiteral literal = some (text.1, rest) := by
  constructor
  · have hloop := @SqlFormatter.bindLoop_eq f params [] fmt hcount.le
    rw [List.nil_append, List.nil_append] at hloop
    rw [SqlFormatter.bind, if_neg (not_not.mpr hcount.symm), ← hloop]
    rfl
  · intro text _ rest hrest
    refine ⟨f.escapeString text.1 ++ quoteByte :: rest, ?_, readLiteral_escape h text.2 hrest⟩
    simp [SqlFormatter.dataToString, quoted]

/-- What `mysql_real_escape_string` does with a byte. -/
def mysqlEscape (c : UInt8) : List UInt8 :=
  if c = 0 then [backslashByte, 0x30]
  else if c = 0x0A then [backslashByte, 0x6E]
  else if c = 0x0D then [backslashByte, 0x72]
  else if c = 0x1A then [backslashByte, 0x5A]
  else if c = quoteByte ∨ c = 0x22 ∨ c = backslashByte then [backslashByte, c]
  else [c]

def mysqlFormatter : SqlFormatter := ⟨fun text => text.flatMap mysqlEscape, fun _ => [0x30], fun _ => [0x30]⟩

theorem mysqlEscape_escapesQuotes : EscapesQuotes mysqlFormatter.escape := by
  refine ⟨mysqlEscape, fun _ => rfl, fun c hc => ?_⟩
  rw [mysqlEscape, if_neg hc]
  split
  next h => exact .inr ⟨0x6E, by decide, rfl, by rw [h]; decide⟩
  next =>
    split
    next h => exact .inr ⟨0x72, by decide, rfl, by rw [h]; decide⟩
    next =>
      split
      next h => exact .inr ⟨0x5A, by decide, rfl, by rw [h]; decide⟩
      next =>
        split
        next h => exact .inr ⟨c, hc, rfl, by rcases h with rfl | rfl | rfl <;> decide⟩
        next h =>
          rw [not_or, not_or] at h
          exact .inl ⟨rfl, h.1, h.2.2⟩

/-- Two marks, and the strings `?` and `'`. -/
theorem bind_exact_marks :
    mysqlFormatter.bind [0x3F, 0x2C, 0x3F] [.string ⟨[0x3F], by decide⟩, .string ⟨[0x27], by decide⟩] =
      some (fillMarks [0x3F, 0x2C, 0x3F] ([.string ⟨[0x3F], by decide⟩, .string ⟨[0x27], by decide⟩].map
        mysqlFormatter.dataToString)) ∧
    ∀ text, .string text ∈ [SqlStmtFieldData.string ⟨[0x3F], by decide⟩, .string ⟨[0x27], by decide⟩] →
      ∀ rest : List UInt8, rest.head? ≠ some quoteByte →
        ∃ literal, mysqlFormatter.dataToString (.string text) ++ rest = quoteByte :: literal ∧
          readLiteral literal = some (text.1, rest) :=
  bind_exact mysqlEscape_escapesQuotes (by decide)

end Mangos
