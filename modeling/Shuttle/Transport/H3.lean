import Shuttle.Lib.Frames
import Shuttle.Lib.Reader

/-!
# Padded frames of H3 streams

A write pads its payload to the next multiple of a random target: a two-byte frame length, a
two-byte payload length, the payload and random bytes. Both lengths are converted to sixteen bits
without a check. The peer reads one frame at a time, keeps what did not fit the caller's buffer and
stops at its first error.
-/

namespace Shuttle.H3

open Shuttle.Go Shuttle.Lib List Frames

/-! ## The padder -/

def defaultPaddingMinTarget : Nat := 1100

def headerSize : Nat := 4

structure Padder where
  minTarget : Nat
  maxTarget : Nat
  positive : 0 < minTarget
  ordered : minTarget ≤ maxTarget

def newPadder (minTarget : Int) (maxTarget : List Int) : Padder :=
  let least : Nat := if minTarget ≤ 0 then defaultPaddingMinTarget else minTarget.toNat
  let most : Int := maxTarget.headD 0
  { minTarget := least
    maxTarget := if most ≤ 0 ∨ most < least then least + 300 else most.toNat
    positive := by
      change 0 < if minTarget ≤ 0 then defaultPaddingMinTarget else minTarget.toNat
      unfold defaultPaddingMinTarget
      split <;> omega
    ordered := by split <;> omega }

variable (padder : Padder)

/-- A target between the two bounds; without randomness the smallest. -/
def Padder.randomTarget (draw : Option Nat) : Nat :=
  let diff := padder.maxTarget - padder.minTarget
  if diff = 0 then padder.minTarget
  else
    match draw with
    | none => padder.minTarget
    | some number => padder.minTarget + number % (diff + 1)

theorem Padder.randomTarget_pos (padder : Padder) (draw : Option Nat) :
    0 < padder.randomTarget draw := by
  have positive := padder.positive
  unfold Padder.randomTarget
  dsimp only
  split
  · exact positive
  · cases draw with
    | none => exact positive
    | some number => exact Nat.add_pos_left positive _

/-- What a caller of `Write` and the target drawn for it decide. -/
structure Call where
  data : List UInt8
  draw : Option Nat

/-- A call of `Write` with its random bytes; none when the source of randomness fails. -/
structure Write where
  call : Call
  random : Option (Nat → UInt8)

/-- Size of the padded frame: the next multiple of the target above header and payload. -/
def Padder.totalSize (call : Call) : Nat :=
  let target := padder.randomTarget call.draw
  ((headerSize + call.data.length) / target + 1) * target

/-- Pad a payload; both lengths are taken modulo `2 ^ 16`. -/
def Padder.pad (write : Write) : Except Unit (List UInt8) :=
  let origLen := write.call.data.length
  let totalSize := padder.totalSize write.call
  let frameLen := totalSize - 2
  let buf := beBytes 2 (frameLen % 2 ^ 16) ++ (beBytes 2 (origLen % 2 ^ 16) ++ write.call.data)
  let padStart := headerSize + origLen
  if padStart < totalSize then
    match write.random with
    | none => .error ()
    | some random => .ok (buf ++ (List.range (totalSize - padStart)).map random)
  else .ok buf

variable (bytes : List UInt8)

def readFrame : Except Frames.FrameError (List UInt8 × List UInt8) :=
  match decodeOne 2 (fun frameLen => 2 ≤ frameLen ∧ frameLen ≤ 65535) bytes with
  | .error error => .error error
  | .ok (frameBuf, rest) =>
    let origLen := ofBe (frameBuf.take 2)
    if frameBuf.length < 2 + origLen then .error .refused
    else .ok ((frameBuf.drop 2).take origLen, rest)

theorem readFrame_shrinks {bytes rest data : List UInt8}
    (found : readFrame bytes = .ok (data, rest)) : rest.length < bytes.length := by
  unfold readFrame at found
  cases decoded : decodeOne 2 (fun frameLen => 2 ≤ frameLen ∧ frameLen ≤ 65535) bytes with
  | error error =>
    rw [decoded] at found
    contradiction
  | ok pair =>
    have ⟨_, occupied⟩ := decodeOne_ok decoded
    rw [decoded] at found
    dsimp only at found
    split at found
    · contradiction
    · have same := (Prod.mk.inj (Except.ok.inj found)).2
      rw [← same]
      omega

def frameReader : Reader UInt8 (List UInt8) Frames.FrameError where
  read := readFrame
  shrinks := readFrame_shrinks

theorem frameReader_read : frameReader.read bytes = readFrame bytes := rfl

/-! ## The stream -/

/-- One call of `Write` that succeeds: the payload it reports as written and the frame it sends. -/
def streamWrite (write : Write) : Option (List UInt8 × List UInt8) :=
  match padder.pad write with
  | .error _ => none
  | .ok padded => some (write.call.data, padded)

variable (padder : Padder) (call : Call) (random : Nat → UInt8) (calls : List Call)
  (writes : List Write)

def sentBytes : List UInt8 :=
  (writes.filterMap (streamWrite padder)).flatMap Prod.snd

def written : List (List UInt8) :=
  (writes.filterMap (streamWrite padder)).map Prod.fst

/-- All that the peer reads into buffers of these sizes, up to its first error. -/
def streamReads (sizes : List Nat) (bytes : List UInt8) : List UInt8 × Option Frames.FrameError :=
  (Source.buffered frameReader.read).reads sizes ([], bytes)

structure Transparent (padder : Padder) (writes : List Write) : Prop where
  inverts : frameReader.all (sentBytes padder writes) = (written padder writes, some .eof)
  front : ∀ sizes, (streamReads sizes (sentBytes padder writes)).1 <+:
    (written padder writes).flatten
  whole : ∀ sizes error, (streamReads sizes (sentBytes padder writes)).2 = some error →
    error = .eof ∧
      (streamReads sizes (sentBytes padder writes)).1 = (written padder writes).flatten
  ends : ∀ sizes, (written padder writes).length + (written padder writes).flatten.length <
    sizes.countP (0 < ·) → (streamReads sizes (sentBytes padder writes)).2 = some .eof

theorem transparent_of_inverts {padder : Padder} {writes : List Write}
    (inverts : frameReader.all (sentBytes padder writes) = (written padder writes, some .eof)) :
    Transparent padder writes := by
  have same (input : List UInt8) : frameReader.read input =
      (frameReader.read input).map fun pair => (pair.1, id pair.2) := by
    cases frameReader.read input <;> rfl
  have reads := Source.buffered_reads ((yields_iff_all frameReader same).mpr inverts) []
  constructor
  · exact inverts
  · intro sizes
    exact (reads sizes).1
  · intro sizes
    exact (reads sizes).2.1
  · intro sizes
    exact (reads sizes).2.2

/-! ## Padding and reading one frame -/

theorem Padder.totalSize_gt :
    headerSize + call.data.length < padder.totalSize call := by
  have positive := padder.randomTarget_pos call.draw
  exact (Nat.div_lt_iff_lt_mul positive).mp (Nat.lt_succ_self _)

/-- What follows the frame length: payload length, payload and padding. -/
def Padder.frameBody : List UInt8 :=
  beBytes 2 (call.data.length % 2 ^ 16) ++ (call.data ++
    (List.range (padder.totalSize call - (headerSize + call.data.length))).map random)

theorem Padder.frameBody_length :
    (padder.frameBody call random).length = padder.totalSize call - 2 := by
  have longer := padder.totalSize_gt call
  unfold headerSize at longer
  unfold Padder.frameBody headerSize
  rw [length_append, beBytes_length, length_append, length_map, length_range]
  omega

theorem Padder.pad_some :
    padder.pad ⟨call, some random⟩ =
      .ok (beBytes 2 ((padder.totalSize call - 2) % 2 ^ 16) ++ padder.frameBody call random) := by
  unfold Padder.pad
  dsimp only
  rw [if_pos (padder.totalSize_gt call), Padder.frameBody, append_assoc, append_assoc]

theorem Padder.pad_none : padder.pad ⟨call, none⟩ = .error () := by
  unfold Padder.pad
  rw [if_pos (padder.totalSize_gt call)]

theorem Padder.frameBody_take :
    ofBe ((padder.frameBody call random).take 2) = call.data.length % 2 ^ 16 := by
  rw [Padder.frameBody, take_left' (beBytes_length 2 _)]
  exact ofBe_beBytes_of_lt (Nat.mod_lt _ (by decide))

theorem Padder.frameBody_drop :
    (padder.frameBody call random).drop 2 = call.data ++
      (List.range (padder.totalSize call - (headerSize + call.data.length))).map random := by
  exact drop_left' (beBytes_length 2 _)

theorem readFrame_pad
    (fits : padder.totalSize call ≤ 65537) (rest : List UInt8) :
    readFrame (beBytes 2 ((padder.totalSize call - 2) % 2 ^ 16) ++
      (padder.frameBody call random ++ rest)) = .ok (call.data, rest) := by
  have longer := padder.totalSize_gt call
  unfold headerSize at longer
  have bodyLength := padder.frameBody_length call random
  have header : beBytes 2 ((padder.totalSize call - 2) % 2 ^ 16) ++ padder.frameBody call random =
      encode 2 (padder.frameBody call random) := by
    rw [encode, bodyLength, Nat.mod_eq_of_lt (by omega)]
  have small : call.data.length % 2 ^ 16 = call.data.length := Nat.mod_eq_of_lt (by omega)
  have decoded : decodeOne 2 (fun frameLen => 2 ≤ frameLen ∧ frameLen ≤ 65535)
      (encode 2 (padder.frameBody call random) ++ rest) =
        .ok (padder.frameBody call random, rest) := by
    apply decodeOne_encode
    · omega
    · rw [decide_eq_true_eq]
      omega
  unfold readFrame
  rw [← append_assoc, header, decoded]
  dsimp only
  rw [padder.frameBody_take, small, if_neg (by omega), padder.frameBody_drop, take_left]

theorem readFrame_zeros : readFrame (0 :: 0 :: bytes) = .error .refused := by
  have header : (0 : UInt8) :: 0 :: bytes = beBytes 2 0 ++ bytes := rfl
  have fits : 0 < 256 ^ 2 := by decide
  unfold readFrame
  rw [header, decodeOne_announced _ fits (Nat.zero_le _)]
  rfl

theorem readFrame_wrapped
    (large : 65537 < padder.totalSize call) (rest : List UInt8) {data others : List UInt8}
    (found : readFrame (beBytes 2 ((padder.totalSize call - 2) % 2 ^ 16) ++
      (padder.frameBody call random ++ rest)) = .ok (data, others)) :
    data.length = call.data.length % 2 ^ 16 ∧
      others = (padder.frameBody call random).drop ((padder.totalSize call - 2) % 2 ^ 16) ++ rest ∧
      2 + data.length ≤ (padder.totalSize call - 2) % 2 ^ 16 := by
  have bodyLength := padder.frameBody_length call random
  have wrapped : (padder.totalSize call - 2) % 2 ^ 16 < 2 ^ 16 := Nat.mod_lt _ (by decide)
  generalize (padder.totalSize call - 2) % 2 ^ 16 = length at found wrapped
  have enough : length ≤ (padder.frameBody call random ++ rest).length := by
    rw [length_append]
    omega
  have within : length ≤ (padder.frameBody call random).length := by
    omega
  have fits : length < 256 ^ 2 := wrapped
  unfold readFrame at found
  rw [decodeOne_announced _ fits enough] at found
  by_cases accepted : 2 ≤ length ∧ length ≤ 65535
  · rw [if_pos (decide_eq_true accepted), take_append_of_le_length within,
      drop_append_of_le_length within] at found
    dsimp only at found
    rw [take_take, Nat.min_eq_left accepted.1, padder.frameBody_take, length_take] at found
    split at found
    · contradiction
    · have same := Prod.mk.inj (Except.ok.inj found)
      have count : data.length = call.data.length % 2 ^ 16 := by
        rw [← same.1, length_take, length_drop, length_take]
        omega
      exact ⟨count, same.2.symm, by omega⟩
  · rw [if_neg (fun accepts => accepted (of_decide_eq_true accepts))] at found
    contradiction

theorem wrapped_not_inverted (large : 65537 < padder.totalSize call)
    (rest : List UInt8) (items : List (List UInt8)) :
    frameReader.all (beBytes 2 ((padder.totalSize call - 2) % 2 ^ 16) ++
      (padder.frameBody call (fun _ => 0) ++ rest)) ≠ (call.data :: items, some .eof) := by
  intro inverted
  cases found : frameReader.read (beBytes 2 ((padder.totalSize call - 2) % 2 ^ 16) ++
      (padder.frameBody call (fun _ => 0) ++ rest)) with
  | error error =>
    rw [frameReader.all_error found] at inverted
    exact cons_ne_nil _ _ (Prod.mk.inj inverted).1.symm
  | ok pair =>
    have ⟨count, behind, room⟩ := readFrame_wrapped padder call (fun _ => 0) large rest found
    rw [frameReader.all_ok found] at inverted
    have same := Prod.mk.inj inverted
    have data := (List.cons.inj same.1).1
    rw [data] at count room
    have zeros : ∃ tail, pair.2 = 0 :: 0 :: tail := by
      generalize cut : (padder.totalSize call - 2) % 2 ^ 16 = length at behind room
      have ⟨extra, past⟩ : ∃ extra, length = 2 + (call.data.length + extra) :=
        ⟨length - 2 - call.data.length, by omega⟩
      have ⟨more, size⟩ : ∃ more,
          padder.totalSize call - (headerSize + call.data.length) - extra = more + 2 :=
        ⟨padder.totalSize call - 2 - length - 2, by unfold headerSize; omega⟩
      refine ⟨List.replicate more 0 ++ rest, ?_⟩
      rw [behind, past, ← drop_drop, padder.frameBody_drop, ← drop_drop, drop_left,
        map_const', length_range, drop_replicate, size]
      rfl
    have ⟨tail, front⟩ := zeros
    have refused := (frameReader_read _).trans (readFrame_zeros tail)
    rw [front, frameReader.all_error refused] at same
    cases Option.some.inj same.2

/-! ## Whole streams -/

theorem streamWrite_some :
    streamWrite padder ⟨call, some random⟩ = some (call.data,
      beBytes 2 ((padder.totalSize call - 2) % 2 ^ 16) ++ padder.frameBody call random) := by
  rw [streamWrite, padder.pad_some]

theorem streamWrite_none :
    streamWrite padder ⟨call, none⟩ = none := by
  rw [streamWrite, padder.pad_none]

theorem inverts_of_fits
    (fits : ∀ write ∈ writes, padder.totalSize write.call ≤ 65537) :
    frameReader.all (sentBytes padder writes) = (written padder writes, some .eof) := by
  have ended : frameReader.read [] = .error .eof := rfl
  apply frameReader.all_flatMap Prod.snd Prod.fst ended
  intro frame member rest
  have ⟨write, called, sent⟩ := mem_filterMap.mp member
  have room := fits write called
  cases random : write.random with
  | none =>
    have failed := streamWrite_none padder write.call
    rw [← random, sent] at failed
    contradiction
  | some source =>
    have padded := streamWrite_some padder write.call source
    rw [← random, sent] at padded
    rw [Option.some.inj padded]
    exact readFrame_pad padder write.call source room rest

def zeroWrites : List Write := calls.map fun call => ⟨call, some fun _ => 0⟩

theorem sentBytes_zeroWrites_cons :
    sentBytes padder (zeroWrites (call :: calls)) =
      beBytes 2 ((padder.totalSize call - 2) % 2 ^ 16) ++ (padder.frameBody call (fun _ => 0) ++
        sentBytes padder (zeroWrites calls)) := by
  unfold zeroWrites sentBytes
  rw [map_cons, filterMap_cons_some (streamWrite_some padder call _), flatMap_cons, append_assoc]

theorem written_zeroWrites_cons :
    written padder (zeroWrites (call :: calls)) =
      call.data :: written padder (zeroWrites calls) := by
  unfold zeroWrites written
  rw [map_cons, filterMap_cons_some (streamWrite_some padder call _), map_cons]

theorem fits_of_inverts
    (inverts : frameReader.all (sentBytes padder (zeroWrites calls)) =
      (written padder (zeroWrites calls), some .eof)) :
    ∀ call ∈ calls, padder.totalSize call ≤ 65537 := by
  induction calls with
  | nil =>
    intro call member
    exact absurd member not_mem_nil
  | cons call calls ih =>
    rw [sentBytes_zeroWrites_cons, written_zeroWrites_cons] at inverts
    by_cases fits : padder.totalSize call ≤ 65537
    · have found :=
        readFrame_pad padder call (fun _ => 0) fits (sentBytes padder (zeroWrites calls))
      rw [frameReader.all_ok ((frameReader_read _).trans found)] at inverts
      have same := Prod.mk.inj inverts
      have later := ih (Prod.ext (List.cons.inj same.1).2 same.2)
      intro other member
      rcases mem_cons.mp member with first | rest
      · rw [first]
        exact fits
      · exact later other rest
    · exact absurd inverts (wrapped_not_inverted padder call (by omega) _ _)

/-- Whatever the padding, the peer reads what was written exactly when every frame, rounded up to
its target, is at most two bytes longer than the largest sixteen-bit length. -/
theorem transparent_iff_frames_fit (padder : Padder) (calls : List Call) :
    (∀ writes : List Write, writes.map Write.call = calls → Transparent padder writes) ↔
      ∀ call ∈ calls,
        ((4 + call.data.length) / padder.randomTarget call.draw + 1) *
          padder.randomTarget call.draw ≤ 65537 := by
  constructor
  · intro transparent
    have shape : (zeroWrites calls).map Write.call = calls := by
      rw [zeroWrites, map_map]
      exact map_id calls
    exact fits_of_inverts padder calls (transparent (zeroWrites calls) shape).inverts
  · intro fits writes shape
    apply transparent_of_inverts
    apply inverts_of_fits
    intro write member
    apply fits
    rw [← shape]
    exact mem_map_of_mem member

theorem not_transparent_of_largest {payload : List UInt8} (largest : payload.length = 65535) :
    ¬Transparent (newPadder 0 []) [⟨⟨payload, none⟩, some fun _ => 0⟩] := by
  intro transparent
  have size : (newPadder 0 []).totalSize ⟨payload, none⟩ =
      ((headerSize + 65535) / 1100 + 1) * 1100 := by
    rw [← largest]
    rfl
  have large : ¬(newPadder 0 []).totalSize ⟨payload, none⟩ ≤ 65537 := by
    rw [size]
    decide
  exact large (fits_of_inverts _ [⟨payload, none⟩] transparent.inverts _ mem_cons_self)

/-- One write of 65535 bytes with the default targets is not read back. -/
theorem large_write_desynchronises :
    ¬Transparent (newPadder 0 []) [⟨⟨List.replicate 65535 0x61, none⟩, some fun _ => 0⟩] :=
  not_transparent_of_largest length_replicate

end Shuttle.H3
