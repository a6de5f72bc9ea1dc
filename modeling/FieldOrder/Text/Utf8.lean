namespace FieldOrder.Text

def utf8Width (c : Char) : Nat :=
  if c.toNat < 0x80 then 1 else if c.toNat < 0x800 then 2 else if c.toNat < 0x10000 then 3 else 4

def byte (n : Nat) : UInt8 := UInt8.ofNat n

def encodeChar (c : Char) : List UInt8 :=
  let n := c.toNat
  match utf8Width c with
  | 1 => [byte n]
  | 2 => [byte (0xC0 + n / 64), byte (0x80 + n % 64)]
  | 3 => [byte (0xE0 + n / 4096), byte (0x80 + n / 64 % 64), byte (0x80 + n % 64)]
  | _ =>
    [byte (0xF0 + n / 262144), byte (0x80 + n / 4096 % 64), byte (0x80 + n / 64 % 64),
      byte (0x80 + n % 64)]

def encode (cs : List Char) : List UInt8 := cs.flatMap encodeChar

inductive Utf8Fault where
  | startByte
  | continuationByte
  | endOfData
  deriving Repr, DecidableEq

def Utf8Fault.message : Utf8Fault → String
  | startByte => "invalid start byte"
  | continuationByte => "invalid continuation byte"
  | endOfData => "unexpected end of data"

/-- Bytes `start` to `stop` that are no part of a text. -/
structure Utf8Error where
  fault : Utf8Fault
  first : UInt8
  start : Nat
  stop : Nat
  deriving Repr, DecidableEq

def hexByte (b : UInt8) : String :=
  let digit (n : Nat) : Char := Char.ofNat (if n < 10 then 48 + n else 87 + n)
  .ofList [digit (b.toNat / 16), digit (b.toNat % 16)]

def Utf8Error.message (e : Utf8Error) : String :=
  "'utf-8' codec can't decode " ++
    (if e.stop = e.start + 1 then
      "byte 0x" ++ hexByte e.first ++ " in position " ++ toString e.start
    else "bytes in position " ++ toString e.start ++ "-" ++ toString (e.stop - 1)) ++
    ": " ++ e.fault.message

/-- What a text starts with: a character, or a fault; with the number of bytes after the first one
that belong to it. -/
inductive Utf8Step where
  | char (c : Char) (more : Nat)
  | fault (f : Utf8Fault) (more : Nat)
  deriving Repr, DecidableEq

def isContinuation (b : Nat) : Bool := 0x80 ≤ b && b < 0xC0

/-- May the byte follow `lead`? Overlong forms, surrogates and what is beyond Unicode are shut out
here. -/
def mayFollow (lead b : Nat) : Bool :=
  isContinuation b && (lead != 0xE0 || 0xA0 ≤ b) && (lead != 0xED || b < 0xA0) &&
    (lead != 0xF0 || 0x90 ≤ b) && (lead != 0xF4 || b < 0x90)

def decodeStep (lead : Nat) (rest : List UInt8) : Utf8Step :=
  let value (top : Nat) (bs : List UInt8) : Char :=
    Char.ofNat (bs.foldl (fun n b => n * 64 + b.toNat % 64) top)
  let invalid : Nat → Utf8Step := .fault .continuationByte
  if lead < 0x80 then .char (Char.ofNat lead) 0
  else if lead < 0xC2 then .fault .startByte 0
  else if lead < 0xE0 then
    match rest with
    | [] => .fault .endOfData 0
    | b :: _ => if isContinuation b.toNat then .char (value (lead % 32) [b]) 1 else invalid 0
  else if lead < 0xF0 then
    match rest with
    | [] => .fault .endOfData 0
    | [b] => if mayFollow lead b.toNat then .fault .endOfData 1 else invalid 0
    | b :: c :: _ =>
      if !mayFollow lead b.toNat then invalid 0
      else if !isContinuation c.toNat then invalid 1
      else .char (value (lead % 16) [b, c]) 2
  else if lead < 0xF5 then
    match rest with
    | [] => .fault .endOfData 0
    | [b] => if mayFollow lead b.toNat then .fault .endOfData 1 else invalid 0
    | [b, c] =>
      if !mayFollow lead b.toNat then invalid 0
      else if !isContinuation c.toNat then invalid 1
      else .fault .endOfData 2
    | b :: c :: d :: _ =>
      if !mayFollow lead b.toNat then invalid 0
      else if !isContinuation c.toNat then invalid 1
      else if !isContinuation d.toNat then invalid 2
      else .char (value (lead % 8) [b, c, d]) 3
  else .fault .startByte 0

def decodeFrom (position : Nat) : List UInt8 → Except Utf8Error (List Char)
  | [] => .ok []
  | b :: rest =>
    match decodeStep b.toNat rest with
    | .char c more => (decodeFrom (position + more + 1) (rest.drop more)).map (c :: ·)
    | .fault f more => .error ⟨f, b, position, position + more + 1⟩
termination_by bytes => bytes.length

def decode (bytes : List UInt8) : Except Utf8Error (List Char) := decodeFrom 0 bytes

/-- Reads bytes as text and leaves out those that are none. -/
def decodeLossy : List UInt8 → List Char
  | [] => []
  | b :: rest =>
    match decodeStep b.toNat rest with
    | .char c more => c :: decodeLossy (rest.drop more)
    | .fault _ more => decodeLossy (rest.drop more)
termination_by bytes => bytes.length

end FieldOrder.Text
