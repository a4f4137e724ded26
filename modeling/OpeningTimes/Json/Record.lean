import OpeningTimes.Json.Decoder

/-!
Records.  A record is described by its fields in order, each with a name, a decoder, and a value
for when it is left out.  One reader serves all records; it takes both written forms, an object
with named members and a list of field values by position.
-/

namespace OpeningTimes.Json

/-- A field of a record.  A field without a default has to be written. -/
structure Field (α : Type) where
  name : String
  read : Decoder α
  default? : Option α := none

/-- The fields of a record, by the types of their values. -/
inductive Fields : List Type → Type 1 where
  | nil : Fields []
  | cons {α : Type} {types : List Type} (field : Field α) (fields : Fields types) :
      Fields (α :: types)

def Values : List Type → Type
  | [] => Unit
  | α :: types => α × Values types

/-- A value for each field that has been read, and nothing for the others. -/
def Draft : List Type → Type
  | [] => Unit
  | α :: types => Option α × Draft types

namespace Fields

def count {types : List Type} (_ : Fields types) : Nat :=
  types.length

/-- The draft in which no field has been read. -/
def blank : {types : List Type} → Fields types → Draft types
  | [], .nil => ()
  | _ :: _, .cons _ fields => (none, fields.blank)

/-- Reads the colon and the value after a key into the draft.  A key that names no field has its
value passed over; a key that names a field already read is refused at once. -/
def member : {types : List Type} → Fields types → String → Draft types → Decoder (Draft types)
  | [], .nil, _, draft => fun s => do
      let s ← colon s
      let s ← skipValue s
      .ok (draft, s)
  | _ :: _, .cons field fields, key, (slot, draft) => fun s =>
      if key = field.name then
        match slot with
        | some _ => .error ⟨.repeatedField field.name, .unplaced, s⟩
        | none => do
            let s ← colon s
            let (value, s) ← field.read s
            .ok ((some value, draft), s)
      else do
        let (draft, s) ← fields.member key draft s
        .ok ((slot, draft), s)

theorem member_unknown (key : String) (s : List Char) :
    Fields.nil.member key () s = (do
      let s ← colon s
      let s ← skipValue s
      .ok ((), s)) := rfl

theorem member_fresh {α : Type} {types : List Type} (field : Field α) (fields : Fields types)
    (draft : Draft types) (s : List Char) :
    (Fields.cons field fields).member field.name (none, draft) s = (do
      let s ← colon s
      let (value, s) ← field.read s
      .ok ((some value, draft), s)) := by
  simp [member]

theorem member_repeated {α : Type} {types : List Type} (field : Field α) (fields : Fields types)
    (value : α) (draft : Draft types) (s : List Char) :
    (Fields.cons field fields).member field.name (some value, draft) s
      = .error ⟨.repeatedField field.name, .unplaced, s⟩ := by
  simp [member]

theorem member_other {α : Type} {types : List Type} (field : Field α) (fields : Fields types)
    {key : String} (hother : key ≠ field.name) (slot : Option α) (draft : Draft types)
    (s : List Char) :
    (Fields.cons field fields).member key (slot, draft) s = (do
      let (draft, s) ← fields.member key draft s
      .ok ((slot, draft), s)) := by
  simp [member, hother]

/-- The values of a draft, with defaults for what was not read.  The first field that has neither
is named instead. -/
def complete : {types : List Type} → Fields types → Draft types → Except String (Values types)
  | [], .nil, _ => .ok ()
  | _ :: _, .cons field fields, (slot, draft) =>
      match slot.or field.default? with
      | none => .error field.name
      | some value => do
          let values ← fields.complete draft
          .ok (value, values)

/-- Reads the fields by position.  When the list closes early the remaining fields take their
defaults; the closing bracket is left. -/
def positional (record : String) (total : Nat) :
    {types : List Type} → Fields types → Nat → Decoder (Values types)
  | [], .nil, _ => fun s => .ok ((), s)
  | _ :: _, .cons field fields, index => fun s => do
      match ← Decoder.nextElement (index == 0) s with
      | some s =>
          let (value, s) ← field.read s
          let (values, s) ← fields.positional record total (index + 1) s
          .ok ((value, values), s)
      | none =>
          match field.default? with
          | none => .error ⟨.tooFewElements index record total, .unplaced, s⟩
          | some value =>
              let (values, s) ← fields.positional record total (index + 1) s
              .ok ((value, values), s)

end Fields

/-- Looks for the next key of an object: nothing when the object closes here, and else the text
after the opening quote of the key.  All members but the first follow a comma. -/
def nextKey (first : Bool) (s : List Char) : Except Fault (Option (List Char)) :=
  match skipBlank s with
  | [] => .error (.next .endInObject [])
  | c :: rest =>
      if c = '\x7d' then .ok none
      else if first then
        if c = '"' then .ok (some rest) else .error (.next .keyNotString (c :: rest))
      else if c = ',' then
        match skipBlank rest with
        | [] => .error (.next .endInValue [])
        | d :: rest =>
            if d = '"' then .ok (some rest)
            else if d = '\x7d' then .error (.next .trailingComma (d :: rest))
            else .error (.next .keyNotString (d :: rest))
      else .error (.next .expectedObjectComma (c :: rest))

/-- Reads the members of an object into the draft, in at most `rounds` steps; the closing brace is
left. -/
def membersIn {types : List Type} (fields : Fields types) :
    Nat → Bool → Draft types → Decoder (Draft types)
  | 0, _, _, s => .error (.here .endInObject s)
  | rounds + 1, first, draft, s => do
      match ← nextKey first s with
      | none => .ok (draft, s)
      | some s =>
          let (key, s) ← stringTail s
          let (draft, s) ← fields.member key draft s
          membersIn fields rounds false draft s

/-- Reads an object with named members, after its opening brace; the closing brace is left. -/
def keyed {types : List Type} (fields : Fields types) : Decoder (Values types) := fun s => do
  let (draft, s) ← membersIn fields (s.length + 1) true fields.blank s
  match fields.complete draft with
  | .ok values => .ok (values, s)
  | .error name => .error ⟨.missingField name, .unplaced, s⟩

/-- Passes over the closing bracket of a list of field values. -/
def closePositional (s : List Char) : Except Fault (List Char) :=
  match skipBlank s with
  | [] => .error (.next .endInList [])
  | c :: rest =>
      if c = ']' then .ok rest
      else if c = ',' then
        match skipBlank rest with
        | ']' :: rest => .error (.next .trailingComma (']' :: rest))
        | rest => .error (.next .trailingText rest)
      else .error (.next .trailingText (c :: rest))

/-- Reads a record in either of its forms. -/
def Decoder.record {types : List Type} (name : String) (fields : Fields types) :
    Decoder (Values types) :=
  fun s =>
    match skipBlank s with
    | '[' :: rest =>
        match fields.positional name fields.count 0 rest with
        | .error fault => .error (fault.enclosed Decoder.closeList)
        | .ok (values, rest) => do
            let rest ← closePositional rest
            .ok (values, rest)
    | '\x7b' :: rest =>
        match keyed fields rest with
        | .error fault => .error (fault.enclosed Decoder.closeObject)
        | .ok (values, rest) => .ok (values, Decoder.closeObject rest)
    | s => .error (Decoder.mistaken (.record name) s)

end OpeningTimes.Json
