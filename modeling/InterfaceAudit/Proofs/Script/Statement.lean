import InterfaceAudit.Proofs.Literal.Reading
import InterfaceAudit.Script

/-!
Contract: the statements of a script, read back from its text.

Owns:
- statements, with every argument decoded;
- the grammar of a statement and of a whole script behind its preamble;
- the law that the text of a list of assertions reads back as one statement for
  each unit, one for each check, and a checkpoint behind either group.

Does not own: what a statement does when it is run.
-/

namespace InterfaceAudit.Script

/-! ## The grammar -/

inductive Statement where
  /-- Loads a unit; if that raises, prints the notice and records a failure. -/
  | load (name notice : String)
  /-- Ends the script with exit code 1 if a failure is recorded. -/
  | checkpoint
  | getConst (name location : String)
  | getMethod (receiver method location : String) (singleton allowMissing : Bool)
deriving DecidableEq, Repr

/-- What follows a fixed text, where a text starts with it. -/
def behind? (expected : String) (text : List Char) : Option (List Char) :=
  if expected.toList.isPrefixOf text then some (text.drop expected.toList.length) else none

/-- A literal, with what follows it. -/
def argument? (text : List Char) : Option (String × List Char) :=
  (Literal.read text).map fun read => (String.ofList read.1, read.2)

/-- A flag, with what follows it. -/
def flag? (text : List Char) : Option (Bool × List Char) :=
  (behind? "true" text).map (true, ·) <|> (behind? "false" text).map (false, ·)

def load? (text : List Char) : Option (Statement × List Char) := do
  let text ← behind? "begin\n  require " text
  let (name, text) ← argument? text
  let text ← behind? "\nrescue ScriptError, StandardError\n  $stderr.puts(" text
  let (notice, text) ← argument? text
  let text ← behind? ")\n  state.fail!\nend\n" text
  return (.load name notice, text)

def checkpoint? (text : List Char) : Option (Statement × List Char) := do
  let text ← behind? "exit(1) unless state.success?\n" text
  return (.checkpoint, text)

def getConst? (text : List Char) : Option (Statement × List Char) := do
  let text ← behind? "__probe_get_const(state, " text
  let (name, text) ← argument? text
  let text ← behind? ", " text
  let (location, text) ← argument? text
  let text ← behind? ")\n" text
  return (.getConst name location, text)

def getMethod? (text : List Char) : Option (Statement × List Char) := do
  let text ← behind? "__probe_get_method(state, " text
  let (receiver, text) ← argument? text
  let text ← behind? ", " text
  let (method, text) ← argument? text
  let text ← behind? ", " text
  let (location, text) ← argument? text
  let text ← behind? ", singleton: " text
  let (singleton, text) ← flag? text
  let text ← behind? ", allow_missing: " text
  let (allowMissing, text) ← flag? text
  let text ← behind? ")\n" text
  return (.getMethod receiver method location singleton allowMissing, text)

/-- A statement, with what follows it. -/
def statement? (text : List Char) : Option (Statement × List Char) :=
  load? text <|> checkpoint? text <|> getConst? text <|> getMethod? text

/-- The statements of a text, with empty lines between them passed over. There
are none unless the text can be read to its end. -/
def statements? (text : List Char) : Option (List Statement) :=
  match text with
  | [] => some []
  | c :: text =>
      if c = '\n' then statements? text
      else
        match statement? (c :: text) with
        | some (statement, rest) =>
            if rest.length ≤ text.length then (statements? rest).map (statement :: ·) else none
        | none => none
termination_by text.length
decreasing_by
  · exact Nat.lt_succ_self _
  · exact Nat.lt_succ_of_le ‹_›

/-- The statements of a script: what follows the preamble. -/
def read? (text : String) : Option (List Statement) :=
  (behind? (String.ofList preamble) text.toList).bind statements?

/-! ## What is written -/

def loadStatement (name : String) : Statement :=
  .load name (loadFailure name)

def checkStatement : Check → Statement
  | .constant check => .getConst check.name check.location
  | .method check =>
      .getMethod check.receiver check.method check.location check.singleton check.allowMissing

def statements (assertions : List Assertion) : List Statement :=
  (requires assertions).map loadStatement ++
    .checkpoint :: ((checks assertions).map checkStatement ++ [.checkpoint])

/-! ## Reading the parts -/

theorem behind?_append (expected : String) (rest : List Char) :
    behind? expected (expected.toList ++ rest) = some rest := by
  have starts : expected.toList.isPrefixOf (expected.toList ++ rest) = true :=
    List.isPrefixOf_iff_prefix.mpr (List.prefix_append _ _)
  rw [behind?, if_pos starts, List.drop_left]

theorem argument?_literal (text : String) (rest : List Char) :
    argument? (literal text ++ rest) = some (text, rest) := by
  rw [argument?, literal, Literal.read_quoteChars, Option.map_some, String.ofList_toList]

/-- Two fixed texts that differ at a place that both of them have. -/
def Differ (expected actual : String) : Prop :=
  (expected.toList.zip actual.toList).any (fun pair => pair.1 != pair.2) = true

instance (expected actual : String) : Decidable (Differ expected actual) :=
  inferInstanceAs (Decidable (_ = true))

theorem not_isPrefixOf_of_differ
    {expected actual : List Char}
    (differ : (expected.zip actual).any (fun pair => pair.1 != pair.2) = true)
    (rest : List Char) :
    expected.isPrefixOf (actual ++ rest) = false := by
  induction expected generalizing actual with
  | nil => simp at differ
  | cons first expected inductionHypothesis =>
      cases actual with
      | nil => simp at differ
      | cons c actual =>
          rw [List.zip_cons_cons, List.any_cons, Bool.or_eq_true] at differ
          rw [List.cons_append, List.isPrefixOf_cons_cons]
          rcases differ with here | later
          · have apart : (first == c) = false := by simpa using here
            rw [apart, Bool.false_and]
          · rw [inductionHypothesis later, Bool.and_false]

/-- A text that starts otherwise has nothing behind the expected one. -/
theorem behind?_of_differ {expected actual : String} (differ : Differ expected actual)
    (rest : List Char) : behind? expected (actual.toList ++ rest) = none := by
  rw [behind?, not_isPrefixOf_of_differ differ rest, if_neg (by decide)]

theorem flag?_flag (value : Bool) (rest : List Char) :
    flag? (flag value ++ rest) = some (value, rest) := by
  cases value with
  | true =>
      rw [flag?, flag, if_pos rfl, behind?_append]
      rfl
  | false =>
      rw [flag?, flag, if_neg (by decide), behind?_append, behind?_of_differ (by decide)]
      rfl

/-! ## Reading the statements -/

theorem load?_of_differ {actual : String} (differ : Differ "begin\n  require " actual)
    (rest : List Char) : load? (actual.toList ++ rest) = none := by
  rw [load?, behind?_of_differ differ]
  rfl

theorem checkpoint?_of_differ {actual : String}
    (differ : Differ "exit(1) unless state.success?\n" actual)
    (rest : List Char) : checkpoint? (actual.toList ++ rest) = none := by
  rw [checkpoint?, behind?_of_differ differ]
  rfl

theorem getConst?_of_differ {actual : String}
    (differ : Differ "__probe_get_const(state, " actual)
    (rest : List Char) : getConst? (actual.toList ++ rest) = none := by
  rw [getConst?, behind?_of_differ differ]
  rfl

theorem requireBlock_append (name : String) (rest : List Char) :
    requireBlock name ++ rest =
      "begin\n  require ".toList ++ (literal name ++
        ("\nrescue ScriptError, StandardError\n  $stderr.puts(".toList ++
          (literal (loadFailure name) ++ (")\n  state.fail!\nend\n".toList ++ rest)))) := by
  have opening : "begin\n  require ".toList = line "begin" ++ "  require ".toList := by decide
  have middle : "\nrescue ScriptError, StandardError\n  $stderr.puts(".toList =
      ['\n'] ++ (line "rescue ScriptError, StandardError" ++ "  $stderr.puts(".toList) := by
    decide
  have closing : ")\n  state.fail!\nend\n".toList =
      [')', '\n'] ++ (line "  state.fail!" ++ line "end") := by
    decide
  rw [opening, middle, closing]
  simp only [requireBlock, List.append_assoc]

theorem arguments_cons_cons (first second : List Char) (rest : List (List Char)) :
    arguments (first :: second :: rest) = first ++ ([',', ' '] ++ arguments (second :: rest)) := by
  simp [arguments, List.intercalate]

theorem arguments_singleton (last : List Char) : arguments [last] = last :=
  List.intercalate_singleton

theorem checkCall_constant (check : ConstantCheck) :
    checkCall (.constant check) =
      "__probe_get_const(".toList ++
        arguments ["state".toList, literal check.name, literal check.location] ++
        [')', '\n'] := rfl

theorem checkCall_method (check : MethodCheck) :
    checkCall (.method check) =
      "__probe_get_method(".toList ++
        arguments [
          "state".toList,
          literal check.receiver,
          literal check.method,
          literal check.location,
          "singleton: ".toList ++ flag check.singleton,
          "allow_missing: ".toList ++ flag check.allowMissing] ++
        [')', '\n'] := rfl

theorem checkCall_constant_append (check : ConstantCheck) (rest : List Char) :
    checkCall (.constant check) ++ rest =
      "__probe_get_const(state, ".toList ++ (literal check.name ++ (", ".toList ++
        (literal check.location ++ (")\n".toList ++ rest)))) := by
  have opening : "__probe_get_const(state, ".toList =
      "__probe_get_const(".toList ++ ("state".toList ++ [',', ' ']) := by
    decide
  have comma : ", ".toList = [',', ' '] := by decide
  have closing : ")\n".toList = [')', '\n'] := by decide
  rw [opening, comma, closing]
  simp only [checkCall_constant, arguments_cons_cons, arguments_singleton, List.append_assoc]

theorem checkCall_method_append (check : MethodCheck) (rest : List Char) :
    checkCall (.method check) ++ rest =
      "__probe_get_method(state, ".toList ++ (literal check.receiver ++ (", ".toList ++
        (literal check.method ++ (", ".toList ++ (literal check.location ++
          (", singleton: ".toList ++ (flag check.singleton ++
            (", allow_missing: ".toList ++ (flag check.allowMissing ++
              (")\n".toList ++ rest)))))))))) := by
  have opening : "__probe_get_method(state, ".toList =
      "__probe_get_method(".toList ++ ("state".toList ++ [',', ' ']) := by
    decide
  have comma : ", ".toList = [',', ' '] := by decide
  have third : ", singleton: ".toList = [',', ' '] ++ "singleton: ".toList := by decide
  have fourth : ", allow_missing: ".toList = [',', ' '] ++ "allow_missing: ".toList := by decide
  have closing : ")\n".toList = [')', '\n'] := by decide
  rw [opening, comma, third, fourth, closing]
  simp only [checkCall_method, arguments_cons_cons, arguments_singleton, List.append_assoc]

theorem checkpoint_append (rest : List Char) :
    checkpoint ++ rest = '\n' :: ("exit(1) unless state.success?\n".toList ++ rest) := by
  have text : "exit(1) unless state.success?\n".toList = line "exit(1) unless state.success?" := by
    decide
  rw [checkpoint, text, List.cons_append]

theorem statement?_requireBlock (name : String) (rest : List Char) :
    statement? (requireBlock name ++ rest) = some (loadStatement name, rest) := by
  have loads : load? (requireBlock name ++ rest) = some (loadStatement name, rest) := by
    rw [requireBlock_append]
    simp only [load?, behind?_append, argument?_literal, Option.bind_eq_bind, Option.bind_some]
    rfl
  rw [statement?, loads]
  rfl

theorem statement?_checkpoint (rest : List Char) :
    statement? ("exit(1) unless state.success?\n".toList ++ rest) = some (.checkpoint, rest) := by
  rw [statement?, load?_of_differ (by decide)]
  simp only [checkpoint?, behind?_append, Option.bind_eq_bind, Option.bind_some]
  rfl

theorem statement?_checkCall (check : Check) (rest : List Char) :
    statement? (checkCall check ++ rest) = some (checkStatement check, rest) := by
  cases check with
  | constant check =>
      rw [checkCall_constant_append, statement?, load?_of_differ (by decide),
        checkpoint?_of_differ (by decide)]
      simp only [getConst?, behind?_append, argument?_literal, Option.bind_eq_bind,
        Option.bind_some]
      rfl
  | method check =>
      rw [checkCall_method_append, statement?, load?_of_differ (by decide),
        checkpoint?_of_differ (by decide), getConst?_of_differ (by decide)]
      simp only [getMethod?, behind?_append, argument?_literal, flag?_flag, Option.bind_eq_bind,
        Option.bind_some]
      rfl

/-! ## Reading a script -/

theorem statements?_newline (text : List Char) :
    statements? ('\n' :: text) = statements? text := by
  rw [statements?, if_pos rfl]

/-- A text that starts with a statement, and with no empty line, is read as
that statement in front of those of the rest. -/
theorem statements?_append
    {c : Char}
    {tail rest : List Char}
    {statement : Statement}
    (notEmpty : c ≠ '\n')
    (first : statement? (c :: tail ++ rest) = some (statement, rest)) :
    statements? (c :: tail ++ rest) = (statements? rest).map (statement :: ·) := by
  rw [List.cons_append] at first ⊢
  rw [statements?, if_neg notEmpty, first]
  simp

/-- A run of statements of one kind is read one by one. -/
theorem statements?_flatMap
    {α : Type}
    (write : α → List Char)
    (meaning : α → Statement)
    (reads : ∀ item rest, statement? (write item ++ rest) = some (meaning item, rest))
    (starts : ∀ item, ∃ c tail, write item = c :: tail ∧ c ≠ '\n')
    (items : List α)
    (rest : List Char) :
    statements? (items.flatMap write ++ rest) =
      (statements? rest).map (items.map meaning ++ ·) := by
  induction items with
  | nil => simp
  | cons item items inductionHypothesis =>
      obtain ⟨c, tail, shape, notEmpty⟩ := starts item
      have first := reads item (items.flatMap write ++ rest)
      rw [shape] at first
      rw [List.flatMap_cons, List.append_assoc, shape, statements?_append notEmpty first,
        inductionHypothesis, Option.map_map]
      rfl

theorem statements?_checkpoint (rest : List Char) :
    statements? (checkpoint ++ rest) = (statements? rest).map (.checkpoint :: ·) := by
  rw [checkpoint_append, statements?_newline]
  exact statements?_append (by decide) (statement?_checkpoint rest)

theorem requireBlock_starts (name : String) :
    ∃ c tail, requireBlock name = c :: tail ∧ c ≠ '\n' := by
  have opening : "begin\n  require ".toList = 'b' :: "egin\n  require ".toList := by decide
  have shape := requireBlock_append name []
  rw [List.append_nil, opening, List.cons_append] at shape
  exact ⟨'b', _, shape, by decide⟩

theorem checkCall_starts (check : Check) : ∃ c tail, checkCall check = c :: tail ∧ c ≠ '\n' := by
  cases check with
  | constant check =>
      have opening : "__probe_get_const(".toList = '_' :: "_probe_get_const(".toList := by decide
      rw [checkCall_constant, opening, List.append_assoc, List.cons_append]
      exact ⟨'_', _, rfl, by decide⟩
  | method check =>
      have opening : "__probe_get_method(".toList = '_' :: "_probe_get_method(".toList := by decide
      rw [checkCall_method, opening, List.append_assoc, List.cons_append]
      exact ⟨'_', _, rfl, by decide⟩

/-- The part behind the preamble is read to its end, statement by statement. -/
theorem statements?_body (assertions : List Assertion) :
    statements? (body assertions) = some (statements assertions) := by
  have ending : statements? checkpoint = some [.checkpoint] := by
    have read := statements?_checkpoint []
    rw [List.append_nil] at read
    rw [read, statements?]
    rfl
  have calls :
      statements? ((checks assertions).flatMap checkCall ++ checkpoint) =
        some ((checks assertions).map checkStatement ++ [.checkpoint]) := by
    rw [statements?_flatMap checkCall checkStatement statement?_checkCall checkCall_starts, ending]
    rfl
  have shape : body assertions =
      (requires assertions).flatMap requireBlock ++
        (checkpoint ++ '\n' :: ((checks assertions).flatMap checkCall ++ checkpoint)) := by
    simp [body]
  rw [shape, statements?_flatMap requireBlock loadStatement statement?_requireBlock
    requireBlock_starts, statements?_checkpoint, statements?_newline, calls]
  rfl

/-- The text of a list of assertions is read back as its statements. -/
theorem read?_text (assertions : List Assertion) :
    read? (Probe.mk assertions).text = some (statements assertions) := by
  have split := behind?_append (String.ofList preamble) (body assertions)
  rw [String.toList_ofList] at split
  rw [read?, Probe.text, String.toList_ofList, Probe.chars, split, Option.bind_some,
    statements?_body]

end InterfaceAudit.Script
