import CompletionRules.Proofs.Script.Condition
import CompletionRules.Proofs.Script.Declared

-- The conditional statements of the function, read off its lines, and the branch that is taken. Only
-- the words at the start of a line count, so a line of a rule's command says nothing.

namespace CompletionRules.Script

inductive Head where
  | opens (condition : Option String)
  | turns (condition : Option String)
  | closes
  | inner
  deriving Repr, DecidableEq

def conditionOf? (text : List Char) : Option String :=
  (after? "; then".toList.reverse text.reverse).map fun front => .ofList front.reverse

def Head.ofText (text : String) : Head :=
  let line := text.toList.dropWhile (· == ' ')
  match after? "if ".toList line with
  | some behind => .opens (conditionOf? behind)
  | none =>
    match after? "elif ".toList line with
    | some behind => .turns (conditionOf? behind)
    | none => if line = "else".toList then .turns none else if line = "fi".toList then .closes else .inner

def BodyLine.head : BodyLine → Head
  | .own text => .ofText text
  | .brought _ => .inner

structure Branch where
  condition : String
  lines : List BodyLine
  deriving Repr, DecidableEq

structure Reading where
  lines : List BodyLine
  branches : List Branch
  statements : List (List Branch)
  deriving Repr, DecidableEq

namespace Reading

def put (front : List BodyLine) (reading : Reading) : Reading := { reading with lines := front ++ reading.lines }

def opened (reading : Reading) (condition : String) : Reading :=
  ⟨[], [], (⟨condition, reading.lines⟩ :: reading.branches) :: reading.statements⟩

def turned (reading : Reading) (condition : String) : Reading :=
  ⟨[], ⟨condition, reading.lines⟩ :: reading.branches, reading.statements⟩

def closed (reading : Reading) : Reading := ⟨[], [], reading.statements⟩

end Reading

-- At no depth a line belongs to no statement, at the first to a branch of one, and further down to a
-- statement within a branch, which stays among the branch's lines.
def readBranches : Nat → List BodyLine → Option Reading
  | 0, [] => some ⟨[], [], []⟩
  | _ + 1, [] => none
  | 0, line :: rest =>
    match line.head with
    | .inner => readBranches 0 rest
    | .opens condition => condition.bind fun test => (readBranches 1 rest).map (·.opened test)
    | .turns _ | .closes => none
  | 1, line :: rest =>
    match line.head with
    | .inner => (readBranches 1 rest).map (.put [line])
    | .opens _ => (readBranches 2 rest).map (.put [line])
    | .turns condition => condition.bind fun test => (readBranches 1 rest).map (·.turned test)
    | .closes => (readBranches 0 rest).map .closed
  | depth + 2, line :: rest =>
    match line.head with
    | .inner | .turns _ => (readBranches (depth + 2) rest).map (.put [line])
    | .opens _ => (readBranches (depth + 3) rest).map (.put [line])
    | .closes => (readBranches (depth + 1) rest).map (.put [line])

def statements? (lines : List BodyLine) : Option (List (List Branch)) :=
  (readBranches 0 lines).map Reading.statements

-- Lines that stay together within a branch.
def Whole (lines : List BodyLine) : Prop :=
  ∀ depth rest, readBranches (depth + 1) (lines ++ rest) = (readBranches (depth + 1) rest).map (.put lines)

variable {lines others rest : List BodyLine} {texts : List String}

theorem map_put (front behind : List BodyLine) (reading? : Option Reading) :
    (reading?.map (Reading.put behind)).map (Reading.put front) = reading?.map (Reading.put (front ++ behind)) := by
  cases reading? with
  | none => rfl
  | some reading => simp [Reading.put]

theorem Whole.append (first : Whole lines) (second : Whole others) : Whole (lines ++ others) := by
  intro depth rest
  rw [List.append_assoc, first, second, map_put]

theorem Whole.inner (inner : ∀ line ∈ lines, line.head = .inner) : Whole lines := by
  induction lines with
  | nil =>
    intro depth rest
    rw [List.nil_append]
    cases readBranches (depth + 1) rest <;> rfl
  | cons line others ih =>
    have alone : Whole [line] := by
      intro depth rest
      cases depth <;> simp [readBranches, inner line (by simp)]
    exact alone.append (ih fun other member => inner other (List.mem_cons_of_mem _ member))

theorem Whole.nested {first last : BodyLine} {condition : Option String} (opens : first.head = .opens condition)
    (whole : Whole lines) (closes : last.head = .closes) : Whole (first :: lines ++ [last]) := by
  intro depth rest
  have inside : readBranches (depth + 1) (first :: (lines ++ last :: rest)) =
      (readBranches (depth + 2) (lines ++ last :: rest)).map (.put [first]) := by
    cases depth <;> simp [readBranches, opens]
  have ending : readBranches (depth + 2) (last :: rest) = (readBranches (depth + 1) rest).map (.put [last]) := by
    simp [readBranches, closes]
  have parts : first :: lines ++ [last] ++ rest = first :: (lines ++ last :: rest) := by simp
  rw [parts, inside, whole, ending, map_put, map_put]
  simp

theorem readBranches_outside (inner : ∀ line ∈ lines, line.head = .inner) :
    readBranches 0 (lines ++ rest) = readBranches 0 rest := by
  induction lines with
  | nil => rfl
  | cons line others ih =>
    have here := inner line (by simp)
    rw [List.cons_append, readBranches, here]
    exact ih fun other member => inner other (List.mem_cons_of_mem _ member)

theorem conditionOf?_append (condition : String) : conditionOf? (condition ++ "; then").toList = some condition := by
  rw [conditionOf?, String.toList_append, List.reverse_append, after?_append, Option.map_some, List.reverse_reverse,
    String.ofList_toList]

theorem head_if (condition : String) : Head.ofText ("  if " ++ condition ++ "; then") = .opens (some condition) := by
  have line : ("  if " ++ condition ++ "; then").toList.dropWhile (· == ' ') =
      "if ".toList ++ (condition ++ "; then").toList := by
    simp only [String.toList_append, List.append_assoc]
    rfl
  unfold Head.ofText
  simp only [line, after?_append, conditionOf?_append]

theorem head_elif (condition : String) : Head.ofText ("  elif " ++ condition ++ "; then") = .turns (some condition) := by
  have line : ("  elif " ++ condition ++ "; then").toList.dropWhile (· == ' ') =
      "elif ".toList ++ (condition ++ "; then").toList := by
    simp only [String.toList_append, List.append_assoc]
    rfl
  have otherwise (behind : List Char) : after? "if ".toList ("elif ".toList ++ behind) = none := rfl
  unfold Head.ofText
  simp only [line, otherwise, after?_append, conditionOf?_append]

theorem head_listLine {name : String} (known : name = "candidates" ∨ name = "actions") (words : List String) :
    Head.ofText (listLine name words) = .inner := by
  unfold Head.ofText listLine
  simp only [String.toList_append, List.append_assoc]
  rcases known with rfl | rfl <;> rfl

theorem head_plain : ∀ line ∈ ["    # empty command; offers no candidates", "    candidates=()"],
    Head.ofText line = .inner := by decide +kernel

theorem head_own (inner : ∀ line ∈ texts, Head.ofText line = .inner) :
    ∀ line ∈ texts.map BodyLine.own, line.head = .inner := by
  rw [List.forall_mem_map]
  exact inner

theorem sourceBody_whole (source : Source) : Whole (sourceBody source) := by
  cases source with
  | words words =>
    refine .inner (head_own fun line member => ?_)
    rw [sourceLines_listed] at member
    rcases List.mem_cons.mp member with rfl | later
    · exact head_listLine (.inl rfl) _
    · split at later
      · cases later
      · rw [List.mem_singleton.mp later]
        exact head_listLine (.inr rfl) _
  | command text =>
    rw [sourceBody]
    split
    · rename_i blank
      rw [sourceLines, if_pos blank]
      exact .inner (head_own head_plain)
    · have opens : (BodyLine.own "    if output=$(").head = .opens none := by decide +kernel
      have closes : (BodyLine.own "    fi").head = .closes := by decide +kernel
      have brace : ∀ line ∈ ["      \x7b"], Head.ofText line = .inner := by decide +kernel
      have behind : ∀ line ∈ ["      \x7d 2>/dev/null", "    ); then",
          "      read -r -d '' -a candidates <<<\"$output\""], Head.ofText line = .inner := by decide +kernel
      have brought : ∀ line ∈ (commandLines text).map BodyLine.brought, line.head = .inner := by
        rw [List.forall_mem_map]
        exact fun _ _ => rfl
      have inside := ((Whole.inner (head_own brace)).append (.inner brought)).append (.inner (head_own behind))
      have whole := Whole.nested opens inside closes
      simpa [commandOpening, commandClosing] using whole

def branchOf (entry : Entry) : Branch := ⟨condition entry, sourceBody entry.source⟩

theorem readBranches_elif (entry : Entry) (rest : List BodyLine) :
    readBranches 1 (branchBody "elif" entry ++ rest) =
      ((readBranches 1 rest).map (Reading.put (sourceBody entry.source))).map (·.turned (condition entry)) := by
  have head : (BodyLine.own ("  " ++ "elif" ++ " " ++ condition entry ++ "; then")).head =
      .turns (some (condition entry)) := head_elif (condition entry)
  rw [branchBody, List.cons_append, readBranches, head, sourceBody_whole]
  rfl

theorem readBranches_later (entries : List Entry) (rest : List BodyLine) :
    readBranches 1 (entries.flatMap (branchBody "elif") ++ .own "  fi" :: rest) =
      (readBranches 0 rest).map fun reading => ⟨[], entries.map branchOf, reading.statements⟩ := by
  induction entries with
  | nil =>
    have head : (BodyLine.own "  fi").head = .closes := by decide +kernel
    rw [List.flatMap_nil, List.nil_append, readBranches, head]
    rfl
  | cons entry others ih =>
    rw [List.flatMap_cons, List.append_assoc, readBranches_elif, ih]
    cases readBranches 0 rest with
    | none => rfl
    | some reading => simp [Reading.put, Reading.turned, branchOf]

theorem statements?_chain (entries : List Entry) (rest : List BodyLine) :
    statements? (chainBody entries ++ rest) =
      (statements? rest).map ((if entries.isEmpty then [] else [entries.map branchOf]) ++ ·) := by
  cases entries with
  | nil =>
    rw [chainBody, List.nil_append]
    cases statements? rest <;> rfl
  | cons first others =>
    have head : (BodyLine.own ("  " ++ "if" ++ " " ++ condition first ++ "; then")).head =
      .opens (some (condition first)) := head_if (condition first)
    have blank : (BodyLine.own "").head = .inner := by decide +kernel
    have parts : chainBody (first :: others) ++ rest = .own ("  " ++ "if" ++ " " ++ condition first ++ "; then") ::
        (sourceBody first.source ++ (others.flatMap (branchBody "elif") ++ .own "  fi" :: .own "" :: rest)) := by
      simp [chainBody, branchBody]
    rw [parts, statements?, readBranches, head, sourceBody_whole, readBranches_later, readBranches, blank, statements?]
    cases readBranches 0 rest with
    | none => rfl
    | some reading => simp [Reading.put, Reading.opened, branchOf]

theorem statements?_outside (inner : ∀ line ∈ lines, line.head = .inner) :
    statements? (lines ++ rest) = statements? rest := by
  rw [statements?, readBranches_outside inner, statements?]

theorem statements?_single {first last : BodyLine} {condition : String} (opens : first.head = .opens (some condition))
    (whole : Whole lines) (closes : last.head = .closes) :
    statements? (first :: (lines ++ last :: rest)) = (statements? rest).map ([⟨condition, lines⟩] :: ·) := by
  rw [statements?, readBranches, opens, whole, readBranches, closes, statements?]
  cases readBranches 0 rest with
  | none => rfl
  | some reading => simp [Reading.put, Reading.opened, Reading.closed]

def wordsTyped : Branch := ⟨"((COMP_CWORD > 1))", [.own "    words=(\"$\x7bCOMP_WORDS[@]:1:COMP_CWORD-1\x7d\")"]⟩

def candidateMatches : Branch := ⟨"[[ $word == \"$cur\"* ]]", [.own "      COMPREPLY+=(\"$word\")"]⟩

theorem statements?_prologue (features : Features) :
    statements? ((prologue features).map .own ++ rest) = (statements? rest).map ([wordsTyped] :: ·) := by
  have declared : ∀ line ∈ (declarations features).map Prod.fst ++ ["", "  COMPREPLY=()"],
      Head.ofText line = .inner := by
    obtain ⟨compares, runs, uses⟩ := features
    cases compares <;> cases runs <;> cases uses <;> decide +kernel
  have opens : (BodyLine.own "  if ((COMP_CWORD > 1)); then").head = .opens (some "((COMP_CWORD > 1))") := by
    decide +kernel
  have closes : (BodyLine.own "  fi").head = .closes := by decide +kernel
  have inside : ∀ line ∈ wordsTyped.lines, line.head = .inner := by decide +kernel
  have blank : ∀ line ∈ [BodyLine.own ""], line.head = .inner := by decide +kernel
  have parts : (prologue features).map BodyLine.own ++ rest =
      ((declarations features).map Prod.fst ++ ["", "  COMPREPLY=()"]).map BodyLine.own ++
        .own "  if ((COMP_CWORD > 1)); then" :: (wordsTyped.lines ++ .own "  fi" :: ([.own ""] ++ rest)) := by
    simp [prologue_parts, openingLines, wordsTyped]
  rw [parts, statements?_outside (head_own declared), statements?_single opens (.inner inside) closes,
    statements?_outside blank]
  rfl

theorem statements?_epilogue (features : Features) :
    statements? ((epilogue features).map .own) = some [[candidateMatches]] := by
  rw [epilogue_parts]
  cases features.usesActions <;> decide +kernel

theorem statements?_functionBody (table : Table) : statements? (functionBody table) = some
    ([wordsTyped] :: (if table.entries.isEmpty then [] else [table.entries.map branchOf]) ++ [[candidateMatches]]) := by
  rw [functionBody, List.append_assoc, statements?_prologue, statements?_chain, statements?_epilogue]
  rfl

def Branch.holds (branch : Branch) (program : String) (typed : List String) : Bool :=
  (BranchTest.ofText? branch.condition).any fun test => test.holds program typed

theorem branchOf_read (entry : Entry) : BranchTest.ofText? (branchOf entry).condition = some (entryTest entry) := by
  rw [branchOf, condition_text, ofText?_text]

theorem branchOf_holds (entry : Entry) (program : String) (typed : List String) :
    (branchOf entry).holds program typed = entry.accepts (baseName program) typed := by
  rw [Branch.holds, branchOf_read, Option.any_some, entryTest_holds]

theorem branches_find? (entries : List Entry) (program : String) (typed : List String) :
    ((entries.zip (entries.map branchOf)).find? fun pair => pair.2.holds program typed).map Prod.fst =
      entries.find? fun entry => entry.accepts (baseName program) typed := by
  induction entries with
  | nil => rfl
  | cons entry others ih =>
    rw [List.map_cons, List.zip_cons_cons, List.find?_cons, List.find?_cons, branchOf_holds]
    cases entry.accepts (baseName program) typed with
    | true => rfl
    | false => exact ih

-- The branches of the chain stand for the entries one by one, every test can be read, and the first that
-- holds is the one of the entry that the table finds.
theorem chain_selects_as_table (table : Table) (options : List (String × String)) (name program : String)
    (typed : List String) :
    emit table options name = Text.joined "\n" (title table ++ [name ++ "() \x7b"] ++
      (functionBody table).map BodyLine.text ++ registration table options name ++ ["", "# ex: filetype=sh"]) ++ "\n" ∧
    (functionBody table).filterMap BodyLine.brought? = table.entries.flatMap (fun entry => broughtLines entry.source) ∧
    ∃ branches, statements? (functionBody table) =
        some ([wordsTyped] :: (if table.entries.isEmpty then [] else [branches]) ++ [[candidateMatches]]) ∧
      branches.map Branch.lines = table.entries.map (fun entry => sourceBody entry.source) ∧
      (∀ branch ∈ branches, (BranchTest.ofText? branch.condition).isSome = true) ∧
      ((table.entries.zip branches).find? fun pair => pair.2.holds program typed).map Prod.fst =
        table.find? program typed ∧
      ((∀ branch ∈ branches, branch.holds program typed = false) ↔ table.find? program typed = none) := by
  refine ⟨?_, functionBody_brought table, table.entries.map branchOf, statements?_functionBody table, ?_, ?_, ?_, ?_⟩
  · rw [functionBody_text, emit, emitLines]
    simp only [List.append_assoc]
  · rw [List.map_map]
    rfl
  · rw [List.forall_mem_map]
    intro entry _
    rw [branchOf_read, Option.isSome_some]
  · exact branches_find? table.entries program typed
  · simp only [List.forall_mem_map, branchOf_holds]
    rw [Table.find?, List.find?_eq_none]
    simp

end CompletionRules.Script
