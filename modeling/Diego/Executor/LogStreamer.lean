import Diego.Executor.Container
import Diego.Utf8

/-!
# The log streamer

`depot/log_streamer/stream_destination.go`.  A destination collects the bytes a process
writes and sends them as messages: one for every line, or more if a line is longer than
`maxMessageSize`.  A long line is cut at most three bytes before the maximum, where the
bytes before the cut end in a whole rune.

Slices are out of bounds and loops without end as in the source: both make a call `none`.
No call is (`write_streams`): what has been sent and what is buffered is always what was
written without its line ends (`Streams`), and a line end flushes.
-/

namespace Diego.Executor

open Utf8 List Option

/-! ## The model -/

/-- `s[low:high]`, which panics when it is out of bounds. -/
def slice {α : Type*} (s : List α) (low high : Int) : Option (List α) :=
  if 0 ≤ low ∧ low ≤ high ∧ high ≤ s.length then some ((s.take high.toNat).drop low.toNat) else none

def maxMessageSize : Nat := 61440

/-- `loggregator_v2.Log_Type`. -/
inductive LogType
  | out
  | err
  deriving DecidableEq

/-- A message that the metron client was asked to send. -/
structure AppLog where
  messageType : LogType
  message : GoString
  sourceName : GoString
  tags : List (GoString × GoString)
  deriving DecidableEq

structure StreamDestination where
  sourceName : GoString
  tags : List (GoString × GoString)
  messageType : LogType
  buffer : GoString := []
  /-- What the metron client was asked to send. -/
  sent : List AppLog := []
  deriving DecidableEq

def newStreamDestination (sourceName : GoString) (tags : List (GoString × GoString))
    (messageType : LogType) : StreamDestination where
  sourceName := sourceName
  tags := tags
  messageType := messageType

/-- Whether `logRateLimiter.Limit` returns an error, for a source and a length. -/
abbrev LogRateLimiter := GoString → Nat → Bool

/-- The loop that looks for the end of a rune, up to three bytes back. -/
def bytesToCut (buffer : GoString) : Nat → Nat → Nat → Option Nat
  | 0, _, cut => some cut
  | fuel + 1, r, cut =>
    if r = runeError ∧ cut < 3 then do
      let shorter ← slice buffer 0 (buffer.length - (cut + 1 : Nat))
      bytesToCut buffer fuel (decodeLastRune shorter).1 (cut + 1)
    else some cut

/-- Line feeds and carriage returns end a line. -/
def isLineEnd (rune : Nat) : Bool :=
  rune = '\n'.toNat ∨ rune = '\r'.toNat

namespace StreamDestination

variable (limit : LogRateLimiter)

def flush (d : StreamDestination) : StreamDestination :=
  let msg := d.buffer
  let d := { d with buffer := [] }
  if msg.length > 0 then
    if limit d.sourceName msg.length then d
    else { d with sent := d.sent ++ [⟨d.messageType, msg, d.sourceName, d.tags⟩] }
  else d

/-- The new buffer, and what is left of the message. -/
def appendToBuffer (d : StreamDestination) (message : GoString) :
    Option (StreamDestination × GoString) :=
  if message.length + d.buffer.length ≥ maxMessageSize then do
    let remainingSpaceInBuffer : Int := maxMessageSize - d.buffer.length
    let buffer := d.buffer ++ (← slice message 0 remainingSpaceInBuffer)
    let cut ← bytesToCut buffer 3 (decodeLastRune buffer).1 0
    let index := remainingSpaceInBuffer - cut
    if index < 0 then
      let buffer ← slice buffer 0 (buffer.length - remainingSpaceInBuffer)
      let rest ← slice message 0 message.length
      pure ({ d with buffer := buffer }, rest)
    else
      let buffer ← slice buffer 0 (buffer.length - cut)
      let rest ← slice message index message.length
      pure ({ d with buffer := buffer }, rest)
  else pure ({ d with buffer := d.buffer ++ message }, [])

/-- The loop of `processString`. -/
def appendLoop : Nat → StreamDestination → GoString → Option StreamDestination
  | 0, _, _ => none
  | fuel + 1, d, message => do
    let (d, message) ← d.appendToBuffer message
    if message.length = 0 then pure d else appendLoop fuel (d.flush limit) message

def processString (d : StreamDestination) (message : GoString) (terminates : Bool) :
    Option StreamDestination := do
  let d ← d.appendLoop limit (message.length + 2) message
  if terminates then pure (d.flush limit) else pure d

/-- A turn of the loop of `processMessage`, with the start of the current line. -/
def processRune (message : GoString) (state : StreamDestination × Nat) (ch : Nat × Nat) :
    Option (StreamDestination × Nat) := do
  let d ← state.1.processString limit (← slice message state.2 ch.1) true
  pure (d, ch.1 + 1)

def processMessage (d : StreamDestination) (message : GoString) : Option StreamDestination := do
  let (d, start) ← (range message).foldlM
    (fun state ch => if isLineEnd ch.2 then processRune limit message state ch else pure state)
    (d, 0)
  if start < message.length then
    d.processString limit (← slice message start message.length) false
  else pure d

/-- `Write`, and the number of bytes it reports. -/
def write (d : StreamDestination) (data : GoString) : Option (StreamDestination × Nat) := do
  let d ← d.processMessage limit data
  pure (d, data.length)

def lockAndFlush (d : StreamDestination) : StreamDestination :=
  d.flush limit

end StreamDestination

/-- A call to a destination. -/
inductive StreamCall
  | write (data : GoString)
  | lockAndFlush

def StreamDestination.call (limit : LogRateLimiter) (d : StreamDestination) :
    StreamCall → Option StreamDestination
  | .write data => (d.write limit data).map Prod.fst
  | .lockAndFlush => some (d.lockAndFlush limit)

/-- A sequence of calls. -/
def StreamDestination.calls (limit : LogRateLimiter) (d : StreamDestination)
    (calls : List StreamCall) : Option StreamDestination :=
  calls.foldlM (StreamDestination.call limit) d

/-- Everything that the calls write. -/
def written (calls : List StreamCall) : GoString :=
  calls.flatMap fun
    | .write data => data
    | .lockAndFlush => []

/-! ## Slices -/

section Slice

variable {α : Type*} {s : List α} {n : Nat}

theorem slice_zero {high : Int} (hhigh : high = n) (hle : n ≤ s.length) :
    slice s 0 high = some (s.take n) := by
  subst hhigh
  unfold slice
  rw [if_pos ⟨by omega, by omega, by omega⟩]
  rfl

theorem slice_length {low : Int} (hlow : low = n) (hle : n ≤ s.length) :
    slice s low s.length = some (s.drop n) := by
  subst hlow
  unfold slice
  rw [if_pos ⟨by omega, by omega, by omega⟩, Int.toNat_natCast, Int.toNat_natCast, take_length]

theorem slice_nat {low high : Nat} (hle : low ≤ high) (hhigh : high ≤ s.length) :
    slice s low high = some ((s.take high).drop low) := by
  unfold slice
  rw [if_pos ⟨by omega, by omega, by omega⟩]
  rfl

end Slice

/-! ## One message -/

/-- The cut is at most three bytes, and never out of bounds. -/
theorem bytesToCut_spec {buffer : GoString} (hlength : 3 ≤ buffer.length) (fuel r cut : Nat)
    (hfuel : cut + fuel ≤ 3) :
    ∃ result, result ≤ 3 ∧ bytesToCut buffer fuel r cut = some result := by
  induction fuel generalizing r cut with
  | zero => exact ⟨cut, by omega, rfl⟩
  | succ fuel ih =>
    unfold bytesToCut
    by_cases hcut : r = runeError ∧ cut < 3
    · have hslice : slice buffer 0 (buffer.length - (cut + 1 : Nat)) =
          some (buffer.take (buffer.length - (cut + 1))) := slice_zero (by omega) (by omega)
      rw [if_pos hcut, hslice]
      exact ih _ _ (by omega)
    · rw [if_neg hcut]
      exact ⟨cut, by omega, rfl⟩

variable {d : StreamDestination}

/-- What `appendToBuffer` returns: it loses nothing, and if something is left of the message,
it has taken a part of it or found the buffer in use. -/
theorem appendToBuffer_spec (hbounded : d.buffer.length ≤ maxMessageSize) (message : GoString) :
    ∃ buffer rest, d.appendToBuffer message = some ({ d with buffer := buffer }, rest) ∧
      buffer ++ rest = d.buffer ++ message ∧ buffer.length ≤ maxMessageSize ∧
      (rest ≠ [] → rest.length < message.length ∨ d.buffer ≠ []) ∧
      rest.length ≤ message.length := by
  have hmax : maxMessageSize = 61440 := rfl
  unfold StreamDestination.appendToBuffer
  by_cases hlong : message.length + d.buffer.length ≥ maxMessageSize
  · rw [if_pos hlong]
    obtain ⟨space, hspace⟩ : ∃ space, d.buffer.length + space = maxMessageSize :=
      ⟨maxMessageSize - d.buffer.length, by omega⟩
    have hhead : slice message 0 (maxMessageSize - d.buffer.length) = some (message.take space) :=
      slice_zero (by omega) (by omega)
    have hlength : (d.buffer ++ message.take space).length = maxMessageSize := by
      rw [length_append, length_take]
      omega
    have hroom : 3 ≤ (d.buffer ++ message.take space).length := by omega
    obtain ⟨cut, hcut, hloop⟩ := bytesToCut_spec hroom 3
      (decodeLastRune (d.buffer ++ message.take space)).1 0 le_rfl
    simp only [hhead, hloop, bind_eq_bind, bind_some]
    by_cases hindex : (maxMessageSize : Int) - d.buffer.length - cut < 0
    · -- the cut is in what was buffered before: nothing is taken
      rw [if_pos hindex, slice_zero (n := d.buffer.length) (by omega) (by omega),
        slice_zero (n := message.length) rfl le_rfl]
      refine ⟨d.buffer, message, ?_, rfl, hbounded, fun _ => Or.inr ?_, le_rfl⟩
      · simp
      · intro hnil
        rw [hnil, length_nil] at hspace hindex
        omega
    · rw [if_neg hindex, slice_zero (n := d.buffer.length + (space - cut)) (by omega) (by omega),
        slice_length (n := space - cut) (by omega) (by omega)]
      refine ⟨d.buffer ++ message.take (space - cut), message.drop (space - cut), ?_, ?_, ?_, ?_,
        ?_⟩
      · have htake : (d.buffer ++ message.take space).take (d.buffer.length + (space - cut)) =
            d.buffer ++ message.take (space - cut) := by
          rw [take_length_add_append, take_take, Nat.min_eq_left (Nat.sub_le _ _)]
        rw [htake]
        rfl
      · rw [append_assoc, take_append_drop]
      · rw [length_append, length_take]
        omega
      · intro _
        by_cases hnil : d.buffer = []
        · rw [hnil, length_nil] at hspace hlong
          rw [length_drop]
          omega
        · exact Or.inr hnil
      · rw [length_drop]
        omega
  · rw [if_neg hlong]
    refine ⟨d.buffer ++ message, [], rfl, append_nil _, ?_, fun h => absurd rfl h, Nat.zero_le _⟩
    rw [length_append]
    omega

/-! ## What a destination sends -/

def StreamDestination.messages (d : StreamDestination) : List GoString :=
  d.sent.map AppLog.message

/-- `after` is `before` with the bytes of a message sent or buffered. -/
structure Extends (before after : StreamDestination) (message : GoString) : Prop where
  bounded : after.buffer.length ≤ maxMessageSize
  sent : ∃ new, after.messages = before.messages ++ new ∧
    new.flatten ++ after.buffer = before.buffer ++ message ∧
    ∀ m ∈ new, m ≠ [] ∧ m.length ≤ maxMessageSize

namespace Extends

variable {before middle after : StreamDestination} {message message' : GoString}

theorem trans (h : Extends before middle message) (h' : Extends middle after message') :
    Extends before after (message ++ message') := by
  obtain ⟨new, hmessages, hbytes, hnew⟩ := h.sent
  obtain ⟨new', hmessages', hbytes', hnew'⟩ := h'.sent
  refine ⟨h'.bounded, new ++ new', ?_, ?_, ?_⟩
  · rw [hmessages', hmessages, append_assoc]
  · calc (new ++ new').flatten ++ after.buffer
        = new.flatten ++ (new'.flatten ++ after.buffer) := by
          rw [flatten_append, append_assoc]
      _ = (new.flatten ++ middle.buffer) ++ message' := by rw [hbytes', append_assoc]
      _ = before.buffer ++ (message ++ message') := by rw [hbytes, append_assoc]
  · intro m hm
    rcases mem_append.mp hm with hm | hm
    · exact hnew m hm
    · exact hnew' m hm

/-- Moving bytes of a message into the buffer sends nothing. -/
theorem buffered {buffer rest : GoString} (hbytes : buffer ++ rest = d.buffer ++ message)
    (h : Extends { d with buffer := buffer } after rest) : Extends d after message := by
  obtain ⟨new, hmessages, hnew, hnonempty⟩ := h.sent
  exact ⟨h.bounded, new, hmessages, hnew.trans hbytes, hnonempty⟩

end Extends

variable {limit : LogRateLimiter} {data : GoString}

@[simp] theorem buffer_flush : (d.flush limit).buffer = [] := by
  unfold StreamDestination.flush
  dsimp only
  split
  · split <;> rfl
  · rfl

section

variable (hlimit : ∀ source n, limit source n = false)
  (hbounded : d.buffer.length ≤ maxMessageSize)
include hlimit hbounded

theorem extends_flush : Extends d (d.flush limit) [] := by
  refine ⟨by simp, ?_⟩
  cases hbuffer : d.buffer with
  | nil =>
    simp [StreamDestination.flush, StreamDestination.messages, hbuffer]
  | cons b rest =>
    refine ⟨[b :: rest], ?_, by simp, ?_⟩
    · simp [StreamDestination.flush, StreamDestination.messages, hbuffer, hlimit]
    · intro m hm
      rw [mem_singleton.mp hm]
      exact ⟨cons_ne_nil _ _, hbuffer ▸ hbounded⟩

/-- The loop of `processString` ends: a turn takes bytes of the message, or it flushes a buffer
that was in use. -/
theorem appendLoop_spec {fuel : Nat} {message : GoString}
    (hfuel : message.length + (if d.buffer = [] then 0 else 1) < fuel) :
    ∃ after, d.appendLoop limit fuel message = some after ∧ Extends d after message := by
  induction fuel generalizing d message with
  | zero => omega
  | succ fuel ih =>
    obtain ⟨buffer, rest, happend, hbytes, hlength, hprogress, hle⟩ :=
      appendToBuffer_spec hbounded message
    unfold StreamDestination.appendLoop
    simp only [happend, bind_eq_bind, bind_some]
    by_cases hrest : rest.length = 0
    · rw [if_pos hrest]
      refine ⟨_, rfl, Extends.buffered hbytes ?_⟩
      rw [length_eq_zero_iff.mp hrest]
      exact ⟨hlength, [], by simp, by simp, fun m hm => absurd hm not_mem_nil⟩
    · rw [if_neg hrest]
      have hflush : Extends { d with buffer := buffer }
          (StreamDestination.flush limit { d with buffer := buffer }) [] :=
        extends_flush hlimit hlength
      have hfuel' : rest.length < fuel := by
        rcases hprogress (fun hnil => hrest (by rw [hnil]; rfl)) with hshorter | hused
        · omega
        · rw [if_neg hused] at hfuel
          omega
      obtain ⟨after, hloop, hextends⟩ := ih hflush.bounded (by simpa using hfuel')
      exact ⟨after, hloop, Extends.buffered hbytes (hflush.trans hextends)⟩

/-- `processString` returns, with everything sent or buffered; at a line end all is sent. -/
theorem processString_spec (message : GoString) (terminates : Bool) :
    ∃ after, d.processString limit message terminates = some after ∧ Extends d after message ∧
      (terminates = true → after.buffer = []) := by
  have hfuel : message.length + (if d.buffer = [] then 0 else 1) < message.length + 2 := by
    split <;> omega
  obtain ⟨middle, hloop, hextends⟩ := appendLoop_spec hlimit hbounded hfuel
  unfold StreamDestination.processString
  simp only [hloop]
  cases terminates with
  | false => exact ⟨middle, rfl, hextends, fun h => absurd h (by simp)⟩
  | true =>
    have hflush := hextends.trans (extends_flush hlimit hextends.bounded)
    rw [append_nil] at hflush
    exact ⟨_, rfl, hflush, fun _ => buffer_flush⟩

end

/-! ## Everything written -/

def strip (data : GoString) : GoString :=
  data.filter fun b => !isLineEnd b.toNat

/-- The destination after `data` was written to it: what is sent is cut at least at every
line end, and nothing is lost, added or merged. -/
structure Streams (d : StreamDestination) (data : GoString) : Prop where
  bounded : d.buffer.length ≤ maxMessageSize
  messages : ∀ m ∈ d.messages, m ≠ [] ∧ m.length ≤ maxMessageSize
  bytes : d.messages.flatten ++ d.buffer = strip data
  lines : ∀ line b, isLineEnd b.toNat = true → line ++ [b] <+: data →
    ∃ count ≤ d.messages.length, (d.messages.take count).flatten = strip line

theorem strip_append (first second : GoString) :
    strip (first ++ second) = strip first ++ strip second :=
  filter_append _ _

theorem strip_of_no_lineEnd (h : ∀ b ∈ data, isLineEnd b.toNat = false) : strip data = data :=
  filter_eq_self.mpr fun b hb => by simp [h b hb]

/-- Bytes that end no line end no line later either. -/
theorem isPrefix_of_no_lineEnd {line piece : GoString} {b : UInt8} (hb : isLineEnd b.toNat = true)
    (hpiece : ∀ b ∈ piece, isLineEnd b.toNat = false) (h : line ++ [b] <+: data ++ piece) :
    line ++ [b] <+: data := by
  induction piece using reverseRecOn with
  | nil => rwa [append_nil] at h
  | append_singleton piece last ih =>
    rw [← append_assoc, prefix_concat_iff] at h
    rcases h with heq | hshorter
    · have hlast : [b] = [last] := (append_inj' heq rfl).2
      have hfree := hpiece last (mem_append_right _ mem_cons_self)
      rw [← singleton_inj.mp hlast, hb] at hfree
      exact absurd hfree (by simp)
    · exact ih (fun b' hb' => hpiece b' (mem_append_left _ hb')) hshorter

namespace Streams

variable {d after : StreamDestination} {data piece : GoString}

theorem append (h : Streams d data) (hpiece : ∀ b ∈ piece, isLineEnd b.toNat = false)
    (hextends : Extends d after piece) : Streams after (data ++ piece) := by
  obtain ⟨new, hmessages, hbytes, hnew⟩ := hextends.sent
  refine ⟨hextends.bounded, ?_, ?_, ?_⟩
  · intro m hm
    rw [hmessages] at hm
    rcases mem_append.mp hm with hm | hm
    · exact h.messages m hm
    · exact hnew m hm
  · calc after.messages.flatten ++ after.buffer
        = d.messages.flatten ++ (new.flatten ++ after.buffer) := by
          rw [hmessages, flatten_append, append_assoc]
      _ = strip data ++ piece := by rw [hbytes, ← append_assoc, h.bytes]
      _ = strip (data ++ piece) := by rw [strip_append, strip_of_no_lineEnd hpiece]
  · intro line b hb hprefix
    obtain ⟨count, hcount, hflatten⟩ := h.lines line b hb (isPrefix_of_no_lineEnd hb hpiece hprefix)
    refine ⟨count, ?_, ?_⟩
    · rw [hmessages, length_append]
      omega
    · rw [hmessages, take_append_of_le_length hcount]
      exact hflatten

/-- A line end, after everything before it was sent. -/
theorem lineEnd (h : Streams d data) (hbuffer : d.buffer = []) {b : UInt8}
    (hb : isLineEnd b.toNat = true) : Streams d (data ++ [b]) := by
  have hbytes := h.bytes
  rw [hbuffer, append_nil] at hbytes
  refine ⟨h.bounded, h.messages, ?_, ?_⟩
  · rw [h.bytes]
    simp [strip, hb]
  · intro line b' hb' hprefix
    rcases prefix_concat_iff.mp hprefix with heq | hshorter
    · have hline : line = data := (append_inj' heq rfl).1
      refine ⟨d.messages.length, le_rfl, ?_⟩
      rw [take_length, hline]
      exact hbytes
    · exact h.lines line b' hb' hshorter

end Streams

section Process

variable {d : StreamDestination} {data message : GoString} {start offset : Nat}

/-- What `processRune` does at a line end: the line is sent. -/
theorem processRune_spec (hlimit : ∀ source n, limit source n = false) {b : UInt8}
    {rest : GoString} (hd : Streams d (data ++ message.take start)) (hle : start ≤ offset)
    (hrest : message.drop offset = b :: rest)
    (hfree : ∀ b ∈ (message.take offset).drop start, isLineEnd b.toNat = false)
    (hb : isLineEnd b.toNat = true) :
    ∃ after, StreamDestination.processRune limit message (d, start) (offset, b.toNat) =
        some (after, offset + 1) ∧ Streams after (data ++ message.take (offset + 1)) := by
  have hlt : offset < message.length := by
    have hlength := congrArg length hrest
    rw [length_drop, length_cons] at hlength
    omega
  obtain ⟨after, hstring, hextends, hempty⟩ :=
    processString_spec hlimit hd.bounded ((message.take offset).drop start) true
  refine ⟨after, ?_, ?_⟩
  · unfold StreamDestination.processRune
    simp only [slice_nat hle (Nat.le_of_lt hlt), hstring, bind_eq_bind, bind_some]
    rfl
  · have hline := (hd.append hfree hextends).lineEnd (hempty rfl) hb
    have htake : data ++ message.take start ++ (message.take offset).drop start ++ [b] =
        data ++ message.take (offset + 1) := by
      have hjoin : message.take start ++ (message.take offset).drop start =
          message.take offset := by
        conv_rhs => rw [← take_append_drop start (message.take offset), take_take,
          Nat.min_eq_left hle]
      have hone : message.take (offset + 1) = message.take offset ++ [b] := by
        rw [take_add, hrest]
        rfl
      rw [append_assoc data, hjoin, append_assoc, hone]
    rwa [htake] at hline

/-- The loop of `processMessage`, from an offset on. -/
theorem foldlM_processRune (hlimit : ∀ source n, limit source n = false) {bytes : GoString}
    (hbytes : message.drop offset = bytes) (hd : Streams d (data ++ message.take start))
    (hle : start ≤ offset)
    (hfree : ∀ b ∈ (message.take offset).drop start, isLineEnd b.toNat = false) :
    ∃ after last, (bytesFrom bytes offset).foldlM
        (fun state ch => if isLineEnd ch.2 then StreamDestination.processRune limit message state ch
          else pure state) (d, start) = some (after, last) ∧
      Streams after (data ++ message.take last) ∧
      ∀ b ∈ message.drop last, isLineEnd b.toNat = false := by
  induction bytes generalizing d start offset with
  | nil =>
    refine ⟨d, start, rfl, hd, ?_⟩
    rwa [take_of_length_le (drop_eq_nil_iff.mp hbytes)] at hfree
  | cons b rest ih =>
    have hrest : message.drop (offset + 1) = rest := by
      rw [← drop_drop, hbytes]
      rfl
    rw [bytesFrom, foldlM_cons]
    cases hb : isLineEnd b.toNat with
    | true =>
      obtain ⟨after, hrune, hstreams⟩ := processRune_spec hlimit hd hle hbytes hfree hb
      simp only [hrune]
      refine ih hrest hstreams le_rfl ?_
      intro b' hb'
      rw [drop_of_length_le (by rw [length_take]; omega)] at hb'
      exact absurd hb' not_mem_nil
    | false =>
      refine ih hrest hd (by omega) ?_
      intro b' hb'
      have hone : message.take (offset + 1) = message.take offset ++ [b] := by
        rw [take_add, hbytes]
        rfl
      have hlength : offset < message.length := by
        have hlength := congrArg length hbytes
        rw [length_drop, length_cons] at hlength
        omega
      rw [hone, drop_append_of_le_length (by rw [length_take]; omega), mem_append] at hb'
      rcases hb' with hold | hnew
      · exact hfree b' hold
      · rw [mem_singleton.mp hnew]
        exact hb

theorem isLineEnd_lt {rune : Nat} (h : isLineEnd rune = true) : rune < runeSelf.toNat := by
  simp only [isLineEnd, decide_eq_true_eq] at h
  rcases h with rfl | rfl <;> decide

/-- **`Write` returns**, whatever it is given, and nothing is lost or merged. -/
theorem write_streams (hlimit : ∀ source n, limit source n = false) (hd : Streams d data) :
    ∃ after, d.write limit message = some (after, message.length) ∧
      Streams after (data ++ message) := by
  -- the loop over runes acts at line ends only, so it is a loop over bytes
  have hloop : ∀ state, (range message).foldlM
      (fun state ch => if isLineEnd ch.2 then StreamDestination.processRune limit message state ch
        else pure state) state =
      (bytesFrom message 0).foldlM
        (fun state ch => if isLineEnd ch.2 then StreamDestination.processRune limit message state ch
          else pure state) state := by
    intro state
    rw [← foldlM_filter, ← foldlM_filter, filter_range fun rune => isLineEnd_lt]
  have hstart : Streams d (data ++ message.take 0) := by
    rwa [take_zero, append_nil]
  have hall : message.drop 0 = message := rfl
  obtain ⟨middle, start, hfold, hmiddle, hfree⟩ :=
    foldlM_processRune hlimit hall hstart (Nat.le_refl 0) (by simp)
  unfold StreamDestination.write StreamDestination.processMessage
  simp only [hloop, hfold, bind_eq_bind, bind_some]
  by_cases hlt : start < message.length
  · obtain ⟨after, hstring, hextends, -⟩ :=
      processString_spec hlimit hmiddle.bounded (message.drop start) false
    refine ⟨after, ?_, ?_⟩
    · rw [if_pos hlt, slice_length rfl (Nat.le_of_lt hlt)]
      simp only [bind_some, hstring]
      rfl
    · have hstreams := hmiddle.append hfree hextends
      rwa [append_assoc, take_append_drop] at hstreams
  · refine ⟨middle, ?_, ?_⟩
    · rw [if_neg hlt]
      rfl
    · rwa [take_of_length_le (Nat.not_lt.mp hlt)] at hmiddle

theorem streams_new {sourceName : GoString} {tags : List (GoString × GoString)}
    {messageType : LogType} : Streams (newStreamDestination sourceName tags messageType) [] where
  bounded := Nat.zero_le _
  messages m hm := absurd hm not_mem_nil
  bytes := rfl
  lines line b _ hprefix := absurd (prefix_nil.mp hprefix) (by simp)

theorem call_streams (hlimit : ∀ source n, limit source n = false) (hd : Streams d data)
    {call : StreamCall} :
    ∃ after, d.call limit call = some after ∧ Streams after (data ++ written [call]) := by
  cases call with
  | write message =>
    obtain ⟨after, hwrite, hstreams⟩ := write_streams hlimit hd
    refine ⟨after, ?_, ?_⟩
    · rw [StreamDestination.call, hwrite]
      rfl
    · simpa [written] using hstreams
  | lockAndFlush =>
    refine ⟨d.flush limit, rfl, ?_⟩
    exact hd.append (fun b hb => absurd hb not_mem_nil) (extends_flush hlimit hd.bounded)

theorem calls_streams (hlimit : ∀ source n, limit source n = false) (hd : Streams d data)
    {calls : List StreamCall} :
    ∃ after, d.calls limit calls = some after ∧ Streams after (data ++ written calls) := by
  induction calls generalizing d data with
  | nil => exact ⟨d, rfl, by simpa [written] using hd⟩
  | cons call calls ih =>
    obtain ⟨middle, hcall, hmiddle⟩ := call_streams hlimit hd
    obtain ⟨after, hcalls, hafter⟩ := ih hmiddle
    refine ⟨after, ?_, ?_⟩
    · rw [StreamDestination.calls, foldlM_cons, hcall]
      exact hcalls
    · simpa [written] using hafter

end Process

/-- **Log streaming loses, invents and merges nothing.**  Any sequence of calls on a new
destination returns; every message sent is not empty, no longer than the maximum and without
line ends; the messages and the buffer are together what was written without its line ends;
and at every line end written, a number of messages is exactly what was written before it. -/
theorem log_streaming_is_lossless {limit : LogRateLimiter}
    (hlimit : ∀ source n, limit source n = false) (sourceName : GoString)
    (tags : List (GoString × GoString)) (messageType : LogType) (calls : List StreamCall) :
    ∃ d, (newStreamDestination sourceName tags messageType).calls limit calls = some d ∧
      (∀ m ∈ d.messages, m ≠ [] ∧ m.length ≤ 61440 ∧ ∀ b ∈ m, isLineEnd b.toNat = false) ∧
      d.messages.flatten ++ d.buffer = strip (written calls) ∧
      ∀ before b after, isLineEnd b.toNat = true → written calls = before ++ b :: after →
        ∃ count, (d.messages.take count).flatten = strip before ∧
          (d.messages.drop count).flatten ++ d.buffer = strip after := by
  obtain ⟨d, hcalls, hd⟩ :=
    calls_streams hlimit streams_new
  rw [List.nil_append] at hd
  refine ⟨d, hcalls, ?_, hd.bytes, ?_⟩
  · intro m hm
    obtain ⟨hnonempty, hlength⟩ := hd.messages m hm
    refine ⟨hnonempty, hlength, fun b hb => ?_⟩
    have hstripped : b ∈ strip (written calls) := by
      rw [← hd.bytes]
      exact List.mem_append_left _ (List.mem_flatten_of_mem hm hb)
    simpa using (List.mem_filter.mp hstripped).2
  · intro before b after hb hwritten
    have hline : before ++ [b] <+: written calls := ⟨after, by rw [hwritten]; simp⟩
    obtain ⟨count, -, hbefore⟩ := hd.lines before b hb hline
    refine ⟨count, hbefore, ?_⟩
    -- the rest is what is left of the whole
    have hwhole : (d.messages.take count).flatten ++
        ((d.messages.drop count).flatten ++ d.buffer) = strip before ++ strip after := by
      calc (d.messages.take count).flatten ++ ((d.messages.drop count).flatten ++ d.buffer)
          = d.messages.flatten ++ d.buffer := by
            rw [← List.append_assoc, ← List.flatten_append, List.take_append_drop]
        _ = strip (before ++ b :: after) := by rw [hd.bytes, hwritten]
        _ = strip before ++ strip after := by
            simp [strip, hb]
    rw [hbefore] at hwhole
    exact List.append_cancel_left hwhole

/-- Two writes with a line end between them, and a flush. -/
theorem log_streaming_is_lossless_sample : ∃ d : StreamDestination,
    (newStreamDestination (bytes "LOG") [] .out).calls (fun _ _ => false)
      [.write (bytes "a\nb"), .lockAndFlush, .write (bytes "c\r")] = some d ∧
    d.messages.flatten ++ d.buffer = bytes "abc" := by
  obtain ⟨d, hcalls, -, hbytes, -⟩ := log_streaming_is_lossless
    (fun _ _ => rfl : ∀ source n, (fun _ _ => false : LogRateLimiter) source n = false)
    (bytes "LOG") [] .out [.write (bytes "a\nb"), .lockAndFlush, .write (bytes "c\r")]
  refine ⟨d, hcalls, hbytes.trans ?_⟩
  decide

end Diego.Executor
