namespace Linewatch.Utf8

inductive State where
  | start
  /-- Inside a character: `owed` more bytes are to come, the next of them between `least` and `most`,
  and `value` holds the bits so far. -/
  | inside (owed : Nat) (least most : UInt8) (value : Nat)
deriving DecidableEq

def first (b : UInt8) : List (Option Char) × State :=
  if b < 0x80 then ([some (.ofNat b.toNat)], .start)
  else if b < 0xC2 then ([none], .start)
  else if b < 0xE0 then ([], .inside 1 0x80 0xBF (b.toNat % 32))
  else if b = 0xE0 then ([], .inside 2 0xA0 0xBF 0)
  else if b = 0xED then ([], .inside 2 0x80 0x9F 13)
  else if b < 0xF0 then ([], .inside 2 0x80 0xBF (b.toNat % 16))
  else if b = 0xF0 then ([], .inside 3 0x90 0xBF 0)
  else if b < 0xF4 then ([], .inside 3 0x80 0xBF (b.toNat % 8))
  else if b = 0xF4 then ([], .inside 3 0x80 0x8F 4)
  else ([none], .start)

def step (b : UInt8) : State → List (Option Char) × State
  | .start => first b
  | .inside owed least most value =>
    if least ≤ b ∧ b ≤ most then
      let value := 64 * value + b.toNat % 64
      if owed = 1 then ([some (.ofNat value)], .start)
      else ([], .inside (owed - 1) 0x80 0xBF value)
    else
      let (chars, state) := first b
      (none :: chars, state)

def feed (done : Array (Option Char) × State) (b : UInt8) : Array (Option Char) × State :=
  let (chars, state) := step b done.2
  (done.1.appendList chars, state)

/-- The characters of a byte sequence, with `none` for each piece that is ill-formed. -/
def decode (bytes : List UInt8) : List (Option Char) :=
  let (chars, state) := bytes.foldl feed (#[], .start)
  match state with
  | .start => chars.toList
  | .inside .. => (chars.push none).toList

def decodeLossy (bytes : List UInt8) : List Char :=
  (decode bytes).map fun c => c.getD '\ufffd'

def decode? (bytes : List UInt8) : Option (List Char) :=
  (decode bytes).foldr (fun c text => c.bind fun c => text.map (c :: ·)) (some [])

def encode (text : String) : List UInt8 := text.toUTF8.data.toList

end Linewatch.Utf8
