import CompletionRules.Proofs.Script.Embedding

-- The lines of the function that a script defines. Those that are cut from a command of a rule are told
-- apart from the function's own lines: what they do is up to the rule.

namespace CompletionRules.Script

inductive BodyLine where
  | own (text : String)
  | brought (text : String)
  deriving Repr, DecidableEq

namespace BodyLine

def text : BodyLine → String
  | .own text | .brought text => text

def brought? : BodyLine → Option String
  | .own _ => none
  | .brought text => some text

theorem map_text {kind : String → BodyLine} (kept : ∀ line, (kind line).text = line) (lines : List String) :
    (lines.map kind).map text = lines := by
  rw [List.map_map]
  exact (List.map_congr_left fun line _ => kept line).trans (List.map_id lines)

theorem map_own (lines : List String) : (lines.map BodyLine.own).map text = lines :=
  map_text (fun _ => rfl) lines

theorem map_brought (lines : List String) : (lines.map BodyLine.brought).map text = lines :=
  map_text (fun _ => rfl) lines

theorem brought?_own (lines : List String) : (lines.map BodyLine.own).filterMap brought? = [] := by
  induction lines with
  | nil => rfl
  | cons line others ih => exact ih

theorem brought?_brought (lines : List String) : (lines.map BodyLine.brought).filterMap brought? = lines := by
  induction lines with
  | nil => rfl
  | cons line others ih => exact congrArg (line :: ·) ih

theorem own_mem_own {line : String} {lines : List String} :
    BodyLine.own line ∈ lines.map BodyLine.own ↔ line ∈ lines := by
  simp

end BodyLine

def broughtLines : Source → List String
  | .words _ => []
  | .command text => if Text.isAllBlank text then [] else commandLines text

def sourceBody : Source → List BodyLine
  | .words words => (sourceLines (.words words)).map .own
  | .command text =>
    if Text.isAllBlank text then (sourceLines (.command text)).map .own
    else commandOpening.map .own ++ (commandLines text).map .brought ++ commandClosing.map .own

def branchBody (keyword : String) (entry : Entry) : List BodyLine :=
  .own ("  " ++ keyword ++ " " ++ condition entry ++ "; then") :: sourceBody entry.source

def chainBody : List Entry → List BodyLine
  | [] => []
  | first :: others => branchBody "if" first ++ others.flatMap (branchBody "elif") ++ [.own "  fi", .own ""]

def functionBody (table : Table) : List BodyLine :=
  (prologue (.ofTable table)).map .own ++ chainBody table.entries ++ (epilogue (.ofTable table)).map .own

theorem sourceBody_text (source : Source) : (sourceBody source).map BodyLine.text = sourceLines source := by
  cases source with
  | words words => exact BodyLine.map_own _
  | command text =>
    cases blank : Text.isAllBlank text with
    | true => rw [sourceBody, if_pos blank, BodyLine.map_own]
    | false =>
      rw [sourceBody, if_neg (by simp [blank]), sourceLines_command blank, List.map_append, List.map_append,
        BodyLine.map_own, BodyLine.map_own, BodyLine.map_brought]

theorem sourceBody_brought (source : Source) :
    (sourceBody source).filterMap BodyLine.brought? = broughtLines source := by
  cases source with
  | words words => exact BodyLine.brought?_own _
  | command text =>
    cases blank : Text.isAllBlank text with
    | true => rw [sourceBody, broughtLines, if_pos blank, if_pos blank, BodyLine.brought?_own]
    | false =>
      rw [sourceBody, broughtLines, if_neg (by simp [blank]), if_neg (by simp [blank]), List.filterMap_append,
        List.filterMap_append, BodyLine.brought?_own, BodyLine.brought?_own, BodyLine.brought?_brought]
      simp

theorem branchBody_text (keyword : String) (entry : Entry) :
    (branchBody keyword entry).map BodyLine.text = branchLines keyword entry := by
  rw [branchBody, List.map_cons, sourceBody_text]
  rfl

theorem branchBody_brought (keyword : String) (entry : Entry) :
    (branchBody keyword entry).filterMap BodyLine.brought? = broughtLines entry.source :=
  sourceBody_brought entry.source

theorem chainBody_text (entries : List Entry) : (chainBody entries).map BodyLine.text = chain entries := by
  cases entries with
  | nil => rfl
  | cons first others =>
    have later : (others.flatMap (branchBody "elif")).map BodyLine.text = others.flatMap (branchLines "elif") := by
      rw [List.map_flatMap]
      simp only [branchBody_text]
    rw [chainBody, chain, List.map_append, List.map_append, branchBody_text, later]
    rfl

theorem chainBody_brought (entries : List Entry) :
    (chainBody entries).filterMap BodyLine.brought? = entries.flatMap fun entry => broughtLines entry.source := by
  cases entries with
  | nil => rfl
  | cons first others =>
    have later : (others.flatMap (branchBody "elif")).filterMap BodyLine.brought? =
        others.flatMap fun entry => broughtLines entry.source := by
      rw [List.filterMap_flatMap]
      simp only [branchBody_brought]
    rw [chainBody, List.filterMap_append, List.filterMap_append, branchBody_brought, later]
    simp [BodyLine.brought?]

theorem functionBody_text (table : Table) : (functionBody table).map BodyLine.text =
    prologue (.ofTable table) ++ chain table.entries ++ epilogue (.ofTable table) := by
  rw [functionBody, List.map_append, List.map_append, BodyLine.map_own, BodyLine.map_own, chainBody_text]

theorem functionBody_brought (table : Table) : (functionBody table).filterMap BodyLine.brought? =
    table.entries.flatMap fun entry => broughtLines entry.source := by
  rw [functionBody, List.filterMap_append, List.filterMap_append, BodyLine.brought?_own, BodyLine.brought?_own,
    chainBody_brought]
  simp

end CompletionRules.Script
