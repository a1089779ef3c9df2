import Treewalk.Document.Yaml.Token

/-!
# Tokens as events

The grammar of YAML: `Treewalk.Yaml.Event.parse` turns tokens into the events of documents, scalars,
sequences and mappings, with the starts and the ends of nodes well nested. What is left out in a
text (a value after a key, an item after a dash) is an empty plain scalar.

The grammar is a machine with a stack of states. As with tokens, a complaint stands after the events
that come before it.
-/

namespace Treewalk.Yaml

/-- What is written in front of a node: an anchor and a tag. -/
structure Decoration where
  anchor : Option String
  tag : Option String

/-- The kinds of events. A scalar says whether it may be taken for something else than a text. -/
inductive EventKind where
  | documentStart
  | documentEnd
  | streamEnd
  | alias (name : String)
  | scalar (d : Decoration) (text : String) (plain : Bool)
  | sequenceStart (d : Decoration)
  | mappingStart (d : Decoration)
  | sequenceEnd
  | mappingEnd

/-- An event, with the line it starts on. -/
structure Event where
  kind : EventKind
  line : Nat

namespace Event

/-- What is expected next. -/
inductive State where
  | implicitDocument
  | documentStart
  | documentContent
  | documentEnd
  | blockNode
  | blockSequenceFirst
  | blockSequenceEntry
  | indentlessEntry
  | blockMappingFirst
  | blockMappingKey
  | blockMappingValue
  | flowSequenceFirst
  | flowSequenceEntry
  | flowPairKey
  | flowPairValue
  | flowPairEnd
  | flowMappingFirst
  | flowMappingKey
  | flowMappingValue
  | flowMappingEmptyValue
  | finished
  deriving DecidableEq

/-- The state of parsing: the tokens left and the complaint after them, the state and the states to
come back to, and what the tag handles stand for. -/
structure Machine where
  tokens : List Token
  complaint : Option Refusal
  state : State
  stack : List State
  handles : List (String × String)

/-- A step of parsing. -/
abbrev Parse := StateT Machine (Except Refusal)

/-- The tag handles that need no directive. -/
def defaultHandles : List (String × String) := [("!", "!"), ("!!", "tag:yaml.org,2002:")]

/-- Adds the tag handles that no directive names. -/
def withDefaults (handles : List (String × String)) : List (String × String) :=
  handles ++ defaultHandles.filter fun h => (handles.lookup h.1).isNone

namespace Parse

/-- The token ahead. Behind the last one stands the complaint. -/
def head : Parse Token := do
  let m ← get
  match m.tokens, m.complaint with
  | t :: _, _ => return t
  | [], some e => throw e
  | [], none => return ⟨.streamEnd, 0⟩

/-- Takes the token ahead. -/
def advance : Parse Token := do
  let t ← head
  modify fun m => { m with tokens := m.tokens.tail }
  return t

/-- Continues with a state. -/
def goto (s : State) : Parse Unit := modify fun m => { m with state := s }

/-- Remembers a state to come back to. -/
def push (s : State) : Parse Unit := modify fun m => { m with stack := s :: m.stack }

/-- Continues with the state remembered last. -/
def pop : Parse Unit :=
  modify fun m => { m with state := m.stack.headD .finished, stack := m.stack.tail }

/-- Complains about a token. -/
def fail {α : Type} (t : Token) (p : Problem) : Parse α := throw (.problem p t.line)

/-- A node that was left out. -/
def emptyScalar (line : Nat) : Event := ⟨.scalar ⟨none, none⟩ "" true, line⟩

/-- The tag of a node, with its handle resolved. -/
def resolveTag (line : Nat) (handle : Option String) (suffix : String) : Parse String := do
  match handle with
  | none => return suffix
  | some h =>
    match (← get).handles.lookup h with
    | some stem => return stem ++ suffix
    | none => throw (.problem (.undefinedHandle h) line)

/-- The anchor and the tag in front of a node, in either order, and the line of the first. -/
def decoration : Parse (Decoration × Option Nat) := do
  let t ← head
  match t.kind with
  | .anchor name =>
    let _ ← advance
    let u ← head
    match u.kind with
    | .tag h s =>
      let _ ← advance
      return (⟨some name, ← resolveTag u.line h s⟩, some t.line)
    | _ => return (⟨some name, none⟩, some t.line)
  | .tag h s =>
    let _ ← advance
    let u ← head
    match u.kind with
    | .anchor name =>
      let _ ← advance
      return (⟨some name, ← resolveTag t.line h s⟩, some t.line)
    | _ => return (⟨none, ← resolveTag t.line h s⟩, some t.line)
  | _ => return (⟨none, none⟩, none)

/-- A node. In a block it may be a block collection; as a mapping's key or value also a sequence
whose dashes are not further in. -/
def node (block indentless : Bool) : Parse Event := do
  let t ← head
  match t.kind with
  | .alias name =>
    let _ ← advance
    pop
    return ⟨.alias name, t.line⟩
  | _ =>
    let (d, start) ← decoration
    let t ← head
    let line := start.getD t.line
    let isSpecific := d.tag.isSome && d.tag != some "!"
    match t.kind with
    | .blockEntry =>
      if indentless then
        goto .indentlessEntry
        return ⟨.sequenceStart d, line⟩
      else otherwise d t line
    | .scalar text plain =>
      let _ ← advance
      pop
      return ⟨.scalar d text ((plain && d.tag.isNone) || (d.tag.isSome && !isSpecific)), line⟩
    | .flowSequenceStart =>
      goto .flowSequenceFirst
      return ⟨.sequenceStart d, line⟩
    | .flowMappingStart =>
      goto .flowMappingFirst
      return ⟨.mappingStart d, line⟩
    | .blockSequenceStart =>
      if block then
        goto .blockSequenceFirst
        return ⟨.sequenceStart d, line⟩
      else otherwise d t line
    | .blockMappingStart =>
      if block then
        goto .blockMappingFirst
        return ⟨.mappingStart d, line⟩
      else otherwise d t line
    | _ => otherwise d t line
where
  /-- A decorated node may be empty; any other may not. -/
  otherwise (d : Decoration) (t : Token) (line : Nat) : Parse Event := do
    if d.anchor.isSome || d.tag.isSome then
      pop
      return ⟨.scalar d "" (d.tag.isNone || d.tag == some "!"), line⟩
    else fail t (.wantedContent t.kind.title)

/-- Reads the directives of a document. -/
def directives : (fuel : Nat) → (versionSeen : Bool) → Parse Unit
  | 0, _ => return
  | fuel + 1, versionSeen => do
    let t ← head
    match t.kind with
    | .directive d =>
      let _ ← advance
      match d with
      | .version major _ =>
        if versionSeen then fail t .duplicateVersion
        if major != 1 then fail t .incompatibleVersion
        directives fuel true
      | .handle h stem =>
        if ((← get).handles.lookup h).isSome then fail t (.duplicateHandle h)
        modify fun m => { m with handles := m.handles ++ [(h, stem)] }
        directives fuel versionSeen
      | .other _ => directives fuel versionSeen
    | _ => return

/-- Moves over marks of a document's end. -/
def skipDocumentEnds : (fuel : Nat) → Parse Unit
  | 0 => return
  | fuel + 1 => do
    match (← head).kind with
    | .documentEnd =>
      let _ ← advance
      skipDocumentEnds fuel
    | _ => return

/-- The start of a further document, or the end of all. -/
def documentStart : Parse Event := do
  skipDocumentEnds ((← get).tokens.length + 1)
  let t ← head
  match t.kind with
  | .streamEnd =>
    let _ ← advance
    goto .finished
    return ⟨.streamEnd, t.line⟩
  | _ =>
    modify fun m => { m with handles := [] }
    directives ((← get).tokens.length + 1) false
    modify fun m => { m with handles := withDefaults m.handles }
    let u ← head
    match u.kind with
    | .documentStart =>
      let _ ← advance
      push .documentEnd
      goto .documentContent
      return ⟨.documentStart, t.line⟩
    | k => fail u (.wantedDocumentStart k.title)

/-- An item of a block sequence, or its end. -/
def blockSequenceEntry : Parse Event := do
  let t ← head
  match t.kind with
  | .blockEntry =>
    let _ ← advance
    match (← head).kind with
    | .blockEntry | .blockEnd =>
      goto .blockSequenceEntry
      return emptyScalar t.line
    | _ =>
      push .blockSequenceEntry
      node true false
  | .blockEnd =>
    let _ ← advance
    pop
    return ⟨.sequenceEnd, t.line⟩
  | k => fail t (.wantedBlockEnd k.title)

/-- A key of a block mapping, or its end. -/
def blockMappingKey : Parse Event := do
  let t ← head
  match t.kind with
  | .key =>
    let _ ← advance
    match (← head).kind with
    | .key | .value | .blockEnd =>
      goto .blockMappingValue
      return emptyScalar t.line
    | _ =>
      push .blockMappingValue
      node true true
  | .blockEnd =>
    let _ ← advance
    pop
    return ⟨.mappingEnd, t.line⟩
  | k => fail t (.wantedBlockEnd k.title)

/-- An item of a flow sequence, after its comma if it is not the first, or the end. -/
def flowSequenceEntry (first : Bool) : Parse Event := do
  let t ← head
  match t.kind with
  | .flowSequenceEnd => finish
  | k =>
    if !first then
      match k with
      | .flowEntry => let _ ← advance
      | _ => fail t (.wantedSequenceSeparator k.title)
    let u ← head
    match u.kind with
    | .key =>
      goto .flowPairKey
      return ⟨.mappingStart ⟨none, none⟩, u.line⟩
    | .flowSequenceEnd => finish
    | _ =>
      push .flowSequenceEntry
      node false false
where
  finish : Parse Event := do
    let t ← advance
    pop
    return ⟨.sequenceEnd, t.line⟩

/-- A key of a flow mapping, after its comma if it is not the first, or the end. -/
def flowMappingKey (first : Bool) : Parse Event := do
  let t ← head
  match t.kind with
  | .flowMappingEnd => finish
  | k =>
    if !first then
      match k with
      | .flowEntry => let _ ← advance
      | _ => fail t (.wantedMappingSeparator k.title)
    let u ← head
    match u.kind with
    | .key =>
      let _ ← advance
      match (← head).kind with
      | .value | .flowEntry | .flowMappingEnd =>
        goto .flowMappingValue
        return emptyScalar u.line
      | _ =>
        push .flowMappingValue
        node false false
    | .flowMappingEnd => finish
    | _ =>
      push .flowMappingEmptyValue
      node false false
where
  finish : Parse Event := do
    let t ← advance
    pop
    return ⟨.mappingEnd, t.line⟩

/-- The event that the current state gives. -/
def next : Parse Event := do
  match (← get).state with
  | .implicitDocument =>
    let t ← head
    match t.kind with
    | .directive _ | .documentStart | .streamEnd => documentStart
    | _ =>
      modify fun m => { m with handles := defaultHandles }
      push .documentEnd
      goto .blockNode
      return ⟨.documentStart, t.line⟩
  | .documentStart => documentStart
  | .documentContent =>
    let t ← head
    match t.kind with
    | .directive _ | .documentStart | .documentEnd | .streamEnd =>
      pop
      return emptyScalar t.line
    | _ => node true false
  | .documentEnd =>
    let t ← head
    match t.kind with
    | .documentEnd => let _ ← advance
    | _ => pure ()
    goto .documentStart
    return ⟨.documentEnd, t.line⟩
  | .blockNode => node true false
  | .blockSequenceFirst =>
    let _ ← advance
    blockSequenceEntry
  | .blockSequenceEntry => blockSequenceEntry
  | .indentlessEntry =>
    let t ← head
    match t.kind with
    | .blockEntry =>
      let _ ← advance
      match (← head).kind with
      | .blockEntry | .key | .value | .blockEnd =>
        goto .indentlessEntry
        return emptyScalar t.line
      | _ =>
        push .indentlessEntry
        node true false
    | _ =>
      pop
      return ⟨.sequenceEnd, t.line⟩
  | .blockMappingFirst =>
    let _ ← advance
    blockMappingKey
  | .blockMappingKey => blockMappingKey
  | .blockMappingValue =>
    let t ← head
    match t.kind with
    | .value =>
      let _ ← advance
      match (← head).kind with
      | .key | .value | .blockEnd =>
        goto .blockMappingKey
        return emptyScalar t.line
      | _ =>
        push .blockMappingKey
        node true true
    | _ =>
      goto .blockMappingKey
      return emptyScalar t.line
  | .flowSequenceFirst =>
    let _ ← advance
    flowSequenceEntry true
  | .flowSequenceEntry => flowSequenceEntry false
  | .flowPairKey =>
    let t ← advance
    match (← head).kind with
    | .value | .flowEntry | .flowSequenceEnd =>
      goto .flowPairValue
      return emptyScalar t.line
    | _ =>
      push .flowPairValue
      node false false
  | .flowPairValue =>
    let t ← head
    match t.kind with
    | .value =>
      let _ ← advance
      match (← head).kind with
      | .flowEntry | .flowSequenceEnd =>
        goto .flowPairEnd
        return emptyScalar t.line
      | _ =>
        push .flowPairEnd
        node false false
    | _ =>
      goto .flowPairEnd
      return emptyScalar t.line
  | .flowPairEnd =>
    goto .flowSequenceEntry
    return ⟨.mappingEnd, (← head).line⟩
  | .flowMappingFirst =>
    let _ ← advance
    flowMappingKey true
  | .flowMappingKey => flowMappingKey false
  | .flowMappingValue =>
    let t ← head
    match t.kind with
    | .value =>
      let _ ← advance
      match (← head).kind with
      | .flowEntry | .flowMappingEnd =>
        goto .flowMappingKey
        return emptyScalar t.line
      | _ =>
        push .flowMappingKey
        node false false
    | _ =>
      goto .flowMappingKey
      return emptyScalar t.line
  | .flowMappingEmptyValue =>
    goto .flowMappingKey
    return emptyScalar (← head).line
  | .finished => return ⟨.streamEnd, 0⟩

end Parse

/-- The events of a text, and the complaint that stands after them, if any. -/
structure Supply where
  events : List Event
  complaint : Option Refusal

/-- Parses until the stream ends or a complaint comes up. -/
def parseFrom : (fuel : Nat) → Machine → Supply
  | 0, _ => ⟨[], none⟩
  | fuel + 1, m =>
    match Parse.next m with
    | .error e => ⟨[], some e⟩
    | .ok (event, m) =>
      if m.state = .finished then ⟨[event], none⟩
      else
        let others := parseFrom fuel m
        ⟨event :: others.events, others.complaint⟩

/-- The events of tokens. No more than four events come between two tokens. -/
def parse (s : Token.Supply) : Supply :=
  parseFrom (4 * s.tokens.length + 8) ⟨s.tokens.tail, s.complaint, .implicitDocument, [], []⟩

end Event

end Treewalk.Yaml
