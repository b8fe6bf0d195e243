import BoundedTls.Tls.Failure

/-!
# Records of unknown peers

What an engine that waits for the first message makes of bytes which no engine wrote. A record
has a kind, a version, a length and as many bytes; a handshake record carries messages with a
kind and a length of their own. The reading ends at the first thing that is wrong, or when more
bytes are needed.
-/

namespace BoundedTls.Tls.Record

/-- What the bytes so far amount to. -/
inductive Reading where
  /-- Nothing is wrong yet; more bytes are needed. -/
  | incomplete
  /-- The peer is refused; an alert tells it so unless it has sent one itself. -/
  | refused (failure : Failure) (answered : Bool)
deriving DecidableEq, Repr

/-- The longest record. -/
def recordLimit : Nat := 18432

/-- The longest handshake message. -/
def messageLimit : Nat := 65535

/-- Refuse bytes that are no record. -/
def corrupt (cause : Corruption) : Reading :=
  .refused (.corrupt cause) true

/-- Two bytes as a number. -/
def word (a b : UInt8) : Nat :=
  a.toNat * 256 + b.toNat

/-- A version that a record may name: any of the protocol's family and a few with a name of
their own. -/
def knownVersion (version : Nat) : Bool :=
  version / 256 == 0x03 || version == 0x0200 || version == 0xFEFF || version == 0xFEFD
    || version == 0xFEFC

/-- The first hello of a peer must name a version and a random value. -/
def hello (body : List UInt8) : Reading :=
  if body.length < 2 then corrupt (.missing "ProtocolVersion")
  else if body.length < 34 then corrupt (.missing "Random")
  else .incomplete

/-- The handshake messages of the records so far. -/
def handshake : List UInt8 → Reading
  | kind :: a :: b :: c :: rest =>
    let length := word a b * 256 + c.toNat
    if messageLimit < length then corrupt .handshakeTooLarge
    else if rest.length < length then .incomplete
    else if kind = 1 ∨ kind = 2 then hello (rest.take length)
    else .incomplete
  | _ => .incomplete

/-- An alert: a warning is passed over, anything else ends the handshake. -/
def alert (level code : UInt8) : Option Reading :=
  if level = 1 then none
  else if level = 2 then some (.refused (.alertReceived ⟨code.toNat⟩) false)
  else some (.refused (.alertReceived ⟨code.toNat⟩) true)

/-- A whole record that is not a handshake record. -/
def other (kind : ContentType) (body : List UInt8) : Option Reading :=
  match kind, body with
  | .alert, [level, code] => alert level code
  | .alert, [_] => some (corrupt (.missing "AlertDescription"))
  | .alert, _ => some (corrupt (.trailing "AlertMessagePayload"))
  | .changeCipherSpec, [1] => some (.refused (.outOfTurn .changeCipherSpec) true)
  | .changeCipherSpec, 1 :: _ => some (corrupt (.trailing "ChangeCipherSpecPayload"))
  | .changeCipherSpec, _ => some (corrupt .changeCipherSpec)
  | .heartbeat, _ => some (corrupt .contentType)
  | kind, _ => some (.refused (.outOfTurn kind) true)

/-- Read records, at most `bound`, with the handshake messages gathered so far. -/
def readFrom (bound : Nat) (gathered bytes : List UInt8) : Reading :=
  match bound with
  | 0 => .incomplete
  | bound + 1 =>
    match bytes with
    | [] => .incomplete
    | first :: rest =>
      match ContentType.ofCode? first.toNat with
      | none => corrupt .contentType
      | some kind =>
        match rest with
        | v1 :: v2 :: rest =>
          if !knownVersion (word v1 v2) then corrupt .version
          else
            match rest with
            | l1 :: l2 :: rest =>
              let length := word l1 l2
              if length = 0 ∧ kind ≠ .applicationData then corrupt .emptyPayload
              else if recordLimit < length then corrupt .tooLarge
              else if rest.length < length then .incomplete
              else
                let body := rest.take length
                let next := rest.drop length
                if kind = .handshake then
                  match handshake (gathered ++ body) with
                  | .incomplete => readFrom bound (gathered ++ body) next
                  | reading => reading
                else
                  match other kind body with
                  | some reading => reading
                  | none => readFrom bound gathered next
            | _ => .incomplete
        | _ => .incomplete

/-- Read the bytes that a peer has sent so far. -/
def read (bytes : List UInt8) : Reading :=
  readFrom (bytes.length + 1) [] bytes

end BoundedTls.Tls.Record
