/-!
Unpacking of deflated bytes: blocks of plain bytes and blocks in prefix codes, in which a symbol is a
byte, the end of the block or a copy of bytes that came before. Input that ends too soon is no fault;
what it held up to there counts.
-/

namespace Runbook.Inflate

inductive Fault where
  | blockType
  | storedLength
  | tooManySymbols
  | codeLengths
  | lengthRepeat
  | noEndOfBlock
  | literalLengths
  | distances
  | literalCode
  | distanceCode
  | distanceTooFar
deriving DecidableEq, Repr

def Fault.message : Fault → String
  | .blockType => "invalid block type"
  | .storedLength => "invalid stored block lengths"
  | .tooManySymbols => "too many length or distance symbols"
  | .codeLengths => "invalid code lengths set"
  | .lengthRepeat => "invalid bit length repeat"
  | .noEndOfBlock => "invalid code -- missing end-of-block"
  | .literalLengths => "invalid literal/lengths set"
  | .distances => "invalid distances set"
  | .literalCode => "invalid literal/length code"
  | .distanceCode => "invalid distance code"
  | .distanceTooFar => "invalid distance too far back"

/-- Why reading stops before the last block is complete. -/
inductive Stop where
  | inputEnds
  | fault (fault : Fault)
deriving Repr

/-- The bits that are left, how many bits have been read, and the bytes so far. -/
structure State where
  bits : List Bool
  used : Nat
  out : Array UInt8

abbrev Reader := EStateM Stop State

def bitsOf (bytes : List UInt8) : List Bool :=
  bytes.flatMap fun byte => (List.range 8).map fun i => byte.toNat.testBit i

def fail {α : Type} (fault : Fault) : Reader α :=
  throw (.fault fault)

/-- A number of the given width, the lowest bit first; it is read whole or not at all. -/
def number (width : Nat) : Reader Nat := do
  let state ← get
  let bits := state.bits.take width
  if bits.length < width then throw .inputEnds
  else
    set { state with bits := state.bits.drop width, used := state.used + width }
    return bits.foldr (fun bit n => n * 2 + bit.toNat) 0

def emit (byte : UInt8) : Reader Unit :=
  modify fun state => { state with out := state.out.push byte }

/-! ### Prefix codes -/

/-- A canonical prefix code: how many symbols have a word of each length from one bit up to the
longest, and the symbols in the order of their words. -/
structure Code where
  counts : List Nat
  symbols : Array Nat

/-- The code in which each symbol has a word of the given length; zero stands for no word. -/
def Code.ofLengths (lengths : List Nat) : Code :=
  let longest := max 1 (lengths.foldl max 0)
  let lengthsUp := (List.range longest).map (· + 1)
  { counts := lengthsUp.map fun length => lengths.count length
    symbols := (lengthsUp.flatMap fun length =>
      (lengths.zipIdx.filter fun entry => entry.1 == length).map (·.2)).toArray }

/-- The code in which either bit stands for zero. -/
def Code.zeros : Code :=
  { counts := [2], symbols := #[0, 0] }

/-- How many words of each length are left over; none when there are too many words. -/
def Code.spare? (code : Code) : Option Nat :=
  code.counts.foldlM (fun spare count => if count ≤ spare * 2 then some (spare * 2 - count) else none) 1

/-- Whether every text of bits can be read in the code. A code with one word of one bit will do where
it says so, and one without words. -/
def Code.isComplete (code : Code) (loose : Bool) : Bool :=
  match code.spare? with
  | none => false
  | some 0 => true
  | some _ => code.symbols.isEmpty || (loose && code.symbols.size == 1 && code.counts.head? == some 1)

/-- The symbol of the word at the head of the bits, and the bits after it. -/
def Code.symbolFrom (code : Code) (word first index used : Nat) :
    List Nat → List Bool → Except Unit (Option (Nat × Nat × List Bool))
  | [], _ => .error ()
  | _, [] => .ok none
  | count :: counts, bit :: bits =>
    let word := word * 2 + bit.toNat
    if word < first + count then
      .ok (some (code.symbols.getD (index + (word - first)) 0, used + 1, bits))
    else code.symbolFrom word ((first + count) * 2) (index + count) (used + 1) counts bits

def Code.symbol (code : Code) (fault : Fault) : Reader Nat := do
  let state ← get
  match code.symbolFrom 0 0 0 0 code.counts state.bits with
  | .error () => fail fault
  | .ok none => throw .inputEnds
  | .ok (some (symbol, used, bits)) =>
    set { state with bits, used := state.used + used }
    return symbol

/-! ### Copies -/

/-- For each symbol of a kind, the least number it stands for and how many bits are added to it. -/
def lengthTable : List (Nat × Nat) := [
  (3, 0), (4, 0), (5, 0), (6, 0), (7, 0), (8, 0), (9, 0), (10, 0), (11, 1), (13, 1), (15, 1),
  (17, 1), (19, 2), (23, 2), (27, 2), (31, 2), (35, 3), (43, 3), (51, 3), (59, 3), (67, 4),
  (83, 4), (99, 4), (115, 4), (131, 5), (163, 5), (195, 5), (227, 5), (258, 0)]

def distanceTable : List (Nat × Nat) := [
  (1, 0), (2, 0), (3, 0), (4, 0), (5, 1), (7, 1), (9, 2), (13, 2), (17, 3), (25, 3), (33, 4),
  (49, 4), (65, 5), (97, 5), (129, 6), (193, 6), (257, 7), (385, 7), (513, 8), (769, 8),
  (1025, 9), (1537, 9), (2049, 10), (3073, 10), (4097, 11), (6145, 11), (8193, 12), (12289, 12),
  (16385, 13), (24577, 13)]

def copyBytes (distance : Nat) : Nat → Array UInt8 → Array UInt8
  | 0, out => out
  | left + 1, out => copyBytes distance left (out.push (out.getD (out.size - distance) 0))

def copy (length distance : Nat) : Reader Unit := do
  let state ← get
  if state.out.size < distance then fail .distanceTooFar
  else set { state with out := copyBytes distance length state.out }

/-- The number that a symbol of a table stands for. -/
def measured (table : List (Nat × Nat)) (symbol : Nat) (fault : Fault) : Reader Nat := do
  match table[symbol]? with
  | none => fail fault
  | some (least, extra) => return least + (← number extra)

/-! ### Blocks -/

/-- Symbols up to the end of the block; each takes at least one bit. -/
def symbols (literals distances : Code) : Nat → Reader Unit
  | 0 => throw .inputEnds
  | fuel + 1 => do
    let symbol ← literals.symbol .literalCode
    if symbol < 256 then
      emit (UInt8.ofNat symbol)
      symbols literals distances fuel
    else if symbol = 256 then return
    else
      let length ← measured lengthTable (symbol - 257) .literalCode
      let distance ← measured distanceTable (← distances.symbol .distanceCode) .distanceCode
      copy length distance
      symbols literals distances fuel

def symbolBlock (literals distances : Code) : Reader Unit := do
  symbols literals distances ((← get).bits.length + 1)

def fixedLiterals : Code :=
  .ofLengths (List.replicate 144 8 ++ List.replicate 112 9 ++ List.replicate 24 7
    ++ List.replicate 8 8)

def fixedDistances : Code :=
  .ofLengths (List.replicate 32 5)

/-- The order in which the lengths of the code for lengths are given. -/
def lengthOrder : List Nat := [16, 17, 18, 0, 8, 7, 9, 6, 10, 5, 11, 4, 12, 3, 13, 2, 14, 1, 15]

/-- The lengths in a table, repetitions written out; the lengths so far are in reverse. -/
def codeLengths (code : Code) (total : Nat) : Nat → List Nat → Reader (List Nat)
  | 0, _ => throw .inputEnds
  | fuel + 1, lengths =>
    if total ≤ lengths.length then pure lengths.reverse
    else do
      let symbol ← code.symbol .codeLengths
      if symbol < 16 then codeLengths code total fuel (symbol :: lengths)
      else
        let again (length : Nat) (times : Nat) : Reader (List Nat) :=
          if total < lengths.length + times then fail .lengthRepeat
          else codeLengths code total fuel (List.replicate times length ++ lengths)
        match symbol, lengths with
        | 16, [] => do
          let _ ← number 2
          fail .lengthRepeat
        | 16, last :: _ => do again last (3 + (← number 2))
        | 17, _ => do again 0 (3 + (← number 3))
        | _, _ => do again 0 (11 + (← number 7))

def lengthsFor (count : Nat) : Reader (List Nat) :=
  (List.range count).mapM fun _ => number 3

def dynamicBlock : Reader Unit := do
  let literalCount := (← number 5) + 257
  let distanceCount := (← number 5) + 1
  let lengthCount := (← number 4) + 4
  if 286 < literalCount || 30 < distanceCount then fail .tooManySymbols
  let given := lengthOrder.zip (← lengthsFor lengthCount)
  let code := Code.ofLengths ((List.range 19).map fun symbol => (given.lookup symbol).getD 0)
  if !code.isComplete false then fail .codeLengths
  let code := if code.symbols.isEmpty then Code.zeros else code
  let lengths ← codeLengths code (literalCount + distanceCount) ((← get).bits.length + 1) []
  if lengths.getD 256 0 = 0 then fail .noEndOfBlock
  let literals := Code.ofLengths (lengths.take literalCount)
  if !literals.isComplete true then fail .literalLengths
  let distances := Code.ofLengths (lengths.drop literalCount)
  if !distances.isComplete true then fail .distances
  symbolBlock literals distances

/-- The given number of bytes as they are, or as many as there are. -/
def plainBytes : Nat → Reader Unit
  | 0 => pure ()
  | left + 1 => do
    emit (UInt8.ofNat (← number 8))
    plainBytes left

/-- Leaves the rest of a byte that has been read in part. -/
def align : Reader Unit := do
  let _ ← number ((8 - (← get).used % 8) % 8)

def storedBlock : Reader Unit := do
  align
  let lengths ← number 32
  let length := lengths % 65536
  if length + lengths / 65536 != 65535 then fail .storedLength
  plainBytes length

def block (kind : Nat) : Reader Unit :=
  match kind with
  | 0 => storedBlock
  | 1 => symbolBlock fixedLiterals fixedDistances
  | 2 => dynamicBlock
  | _ => fail .blockType

/-- Blocks up to the last one. -/
def blocks : Nat → Reader Unit
  | 0 => throw .inputEnds
  | fuel + 1 => do
    let header ← number 3
    block (header / 2)
    if header % 2 = 1 then return
    blocks fuel

def stateOf (bytes : List UInt8) : State :=
  { bits := bitsOf bytes, used := 0, out := #[] }

def Reader.result (reader : Reader Unit) (bytes : List UInt8) :
    Except Fault (List UInt8) :=
  match reader.run (stateOf bytes) with
  | .ok _ state => .ok state.out.toList
  | .error .inputEnds state => .ok state.out.toList
  | .error (.fault fault) _ => .error fault

/-- The bytes that deflated bytes stand for. -/
def raw (bytes : List UInt8) : Except Fault (List UInt8) :=
  Reader.result (do blocks ((← get).bits.length + 1)) bytes

/-! ### With a header and a checksum -/

def checksum (bytes : List UInt8) : Nat :=
  let (a, b) := bytes.foldl (fun (a, b) byte =>
    let a := (a + byte.toNat) % 65521
    (a, (b + a) % 65521)) (1, 0)
  b * 65536 + a

def bigEndian (bytes : List UInt8) : Nat :=
  bytes.foldl (fun n byte => n * 256 + byte.toNat) 0

/-- Whether two bytes can come in front of deflated bytes. -/
def isHeader (first second : UInt8) : Bool :=
  (first.toNat * 256 + second.toNat) % 31 == 0 && first.toNat % 16 == 8 && first.toNat / 16 ≤ 7
    && second.toNat / 32 % 2 == 0

/-- The bytes that deflated bytes in a wrapper stand for, unless something is wrong with them. -/
def wrapped? : List UInt8 → Option (List UInt8)
  | first :: second :: rest =>
    if isHeader first second then
      match (do blocks ((← get).bits.length + 1); align : Reader Unit).run (stateOf rest) with
      | .ok _ state =>
        let after := (rest.drop (state.used / 8)).take 4
        let bytes := state.out.toList
        if after.length < 4 || bigEndian after == checksum bytes then some bytes else none
      | .error .inputEnds state => some state.out.toList
      | .error (.fault _) _ => none
    else none
  | _ => some []

/-- The bytes that deflated bytes stand for, in a wrapper or not. -/
def unpack (bytes : List UInt8) : Except Fault (List UInt8) :=
  match wrapped? bytes with
  | some out => .ok out
  | none => raw bytes

end Runbook.Inflate
