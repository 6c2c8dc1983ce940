import Mathlib.Data.BitVec

/-!
The block header as `RandomXMiner::SerializeBlockHeader` and the Gapcoin checks read it.
A `uint256` is the number its 32 stored bytes spell little-endian, which is how both
`UintToArith256` and `mpz_import(.., -1, 1, -1, ..)` read it. Field defaults are the zeros of
`CBlockHeader::SetNull`.
-/

namespace Wattx.Block

structure OutPoint where
  hash : BitVec 256 := 0
  n : UInt32 := 0xffffffff
  deriving DecidableEq, Repr

structure BlockHeader where
  nVersion : Int := 0
  hashPrevBlock : BitVec 256 := 0
  hashMerkleRoot : BitVec 256 := 0
  nTime : UInt32 := 0
  nBits : UInt32 := 0
  nNonce : UInt32 := 0
  hashStateRoot : BitVec 256 := 0
  hashUTXORoot : BitVec 256 := 0
  prevoutStake : OutPoint := {}
  vchBlockSigDlgt : List UInt8 := []
  nShift : UInt32 := 0
  nAdder : BitVec 256 := 0
  nGapSize : UInt32 := 0
  deriving DecidableEq, Repr

def leBytes (width value : Nat) : List UInt8 :=
  (List.range width).map fun i => (value / 256 ^ i).toUInt8

def compactSize (n : Nat) : List UInt8 :=
  if n < 253 then [n.toUInt8]
  else if n ≤ 0xffff then 253 :: leBytes 2 n
  else if n ≤ 0xffffffff then 254 :: leBytes 4 n
  else 255 :: leBytes 8 n

def serializeOutPoint (o : OutPoint) : List UInt8 :=
  leBytes 32 o.hash.toNat ++ leBytes 4 o.n.toNat

def serializeBlockHeader (h : BlockHeader) : List UInt8 :=
  leBytes 4 (h.nVersion % 2 ^ 32).toNat ++ leBytes 32 h.hashPrevBlock.toNat ++
    leBytes 32 h.hashMerkleRoot.toNat ++ leBytes 4 h.nTime.toNat ++ leBytes 4 h.nBits.toNat ++
    leBytes 4 h.nNonce.toNat ++ leBytes 32 h.hashStateRoot.toNat ++
    leBytes 32 h.hashUTXORoot.toNat ++ serializeOutPoint h.prevoutStake ++
    compactSize h.vchBlockSigDlgt.length ++ h.vchBlockSigDlgt ++ leBytes 4 h.nShift.toNat ++
    leBytes 32 h.nAdder.toNat ++ leBytes 4 h.nGapSize.toNat

@[simp] theorem leBytes_length (width value : Nat) : (leBytes width value).length = width := by
  simp [leBytes]

end Wattx.Block
