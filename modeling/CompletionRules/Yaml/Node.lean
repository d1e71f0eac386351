import CompletionRules.Yaml.EventStream

-- The nodes of one document. An anchor names a place, not a node: an alias may stand inside of the
-- very node it names, so aliases stay references until values are read.

namespace CompletionRules.Yaml

inductive Node where
  | missing
  | alias (place : Nat)
  | scalar (tag : Option (List UInt8)) (text : String) (plain : Bool) (mark : Mark)
  | list (tag : Option (List UInt8)) (items : List Node) (mark : Mark)
  | mapping (tag : Option (List UInt8)) (pairs : List (Node × Node)) (mark : Mark)

instance : Inhabited Node := ⟨.missing⟩

inductive LoadFault where
  | malformed (fault : Fault)
  | unknownAnchor (mark : Mark)
  | tooDeep (mark : Mark)
  | tooManyAliases
  | severalDocuments
  | refused (message : String) (path : String) (mark : Mark)
  deriving Repr, DecidableEq

inductive OpenNode where
  | list (place : Option Nat) (tag : Option (List UInt8)) (items : List Node) (mark : Mark)
  | mapping (place : Option Nat) (tag : Option (List UInt8)) (pairs : List (Node × Node))
      (key : Option Node) (mark : Mark)

-- A number is how many names were known when it was set. It may be given once more when a name is set again,
-- and means the place that it was given to last.
structure Builder where
  opened : List OpenNode
  root : Option Node
  names : List (String × Nat)
  numbers : List (Nat × Nat)
  places : Nat
  nodes : List (Nat × Node)
  eventCount : Nat

namespace Builder

def start : Builder := ⟨[], none, [], [], 0, [], 0⟩

def setAnchor (builder : Builder) (anchor : Option String) : Option Nat × Builder :=
  match anchor with
  | none => (none, builder)
  | some name =>
    let number := builder.names.length
    let place := builder.places
    (some place, { builder with
      names := (name, number) :: builder.names.filter fun known => known.1 ≠ name
      numbers := (number, place) :: builder.numbers
      places := place + 1 })

def keep (builder : Builder) (place : Option Nat) (node : Node) : Builder :=
  match place with
  | none => builder
  | some place => { builder with nodes := (place, node) :: builder.nodes }

def add (builder : Builder) (node : Node) : Builder :=
  match builder.opened with
  | [] => { builder with root := some node }
  | .list place tag items mark :: others =>
    { builder with opened := .list place tag (node :: items) mark :: others }
  | .mapping place tag pairs none mark :: others =>
    { builder with opened := .mapping place tag pairs (some node) mark :: others }
  | .mapping place tag pairs (some key) mark :: others =>
    { builder with opened := .mapping place tag ((key, node) :: pairs) none mark :: others }

def finish (builder : Builder) : Builder :=
  match builder.opened with
  | [] => builder
  | .list place tag items mark :: others =>
    let node := Node.list tag items.reverse mark
    ({ builder with opened := others }.keep place node).add node
  | .mapping place tag pairs _ mark :: others =>
    let node := Node.mapping tag pairs.reverse mark
    ({ builder with opened := others }.keep place node).add node

def breakOff : Nat → Builder → Builder
  | 0, builder => builder
  | room + 1, builder =>
    match builder.opened with
    | [] => builder
    | .list place tag items mark :: others =>
      breakOff room ({ builder with opened := .list place tag (.missing :: items) mark :: others }.finish)
    | .mapping place tag pairs key mark :: others =>
      let pairs := (key.getD .missing, Node.missing) :: pairs
      breakOff room ({ builder with opened := .mapping place tag pairs none mark :: others }.finish)

end Builder

structure Composed where
  root : Node
  builder : Builder
  fault : Option LoadFault

namespace Composed

def broken (builder : Builder) (fault : LoadFault) : Composed :=
  let whole := builder.breakOff builder.opened.length
  ⟨whole.root.getD .missing, whole, some fault⟩

def target (composed : Composed) (place : Nat) : Node :=
  ((composed.builder.numbers.find? (·.1 == place)).bind fun known =>
    (composed.builder.nodes.find? (·.1 == known.2)).map Prod.snd).getD .missing

end Composed

def Composed.ofEvents (fault : Option Fault) : List Event → Builder → Composed × List Event
  | [], builder =>
    (.broken builder (match fault with
      | some fault => .malformed fault
      | none => .severalDocuments), [])
  | event :: rest, builder =>
    let counted := { builder with eventCount := builder.eventCount + 1 }
    match event.kind with
    | .documentStart => ofEvents fault rest builder
    | .documentEnd => (⟨builder.root.getD .missing, builder, none⟩, rest)
    | .streamEnd => (⟨.scalar none "" true event.mark, builder, none⟩, event :: rest)
    | .alias name =>
      match builder.names.find? (·.1 == name) with
      | some (_, number) => ofEvents fault rest (counted.add (.alias number))
      | none => (.broken builder (.unknownAnchor event.mark), [])
    | .scalar properties text plain =>
      let (place, named) := counted.setAnchor properties.anchor
      let node := Node.scalar properties.tag text plain event.mark
      ofEvents fault rest ((named.keep place node).add node)
    | .sequenceStart properties =>
      let (place, named) := counted.setAnchor properties.anchor
      ofEvents fault rest { named with
        opened := .list place properties.tag [] event.mark :: named.opened }
    | .mappingStart properties =>
      let (place, named) := counted.setAnchor properties.anchor
      ofEvents fault rest { named with
        opened := .mapping place properties.tag [] none event.mark :: named.opened }
    | .sequenceEnd | .mappingEnd => ofEvents fault rest counted.finish

end CompletionRules.Yaml
