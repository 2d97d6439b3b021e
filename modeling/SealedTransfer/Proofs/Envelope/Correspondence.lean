/-
# SealedTransfer.Proofs.Envelope.Correspondence — every ciphertext has a nonce of its own

A cipher may serve for more than one message: an envelope that is begun in reply to another takes over its
cipher, and a cipher encrypts texts by itself as well. What keeps the nonces apart is the source, which all of
them are drawn from. A call of a cipher draws the next octets or draws nothing, and whatever else is done in
between can only move the source forward, so the calls of a correspondence draw from stretches of the source
that lie one behind the other.
-/
import SealedTransfer.Proofs.Envelope.Drawing

namespace SealedTransfer

/-! ## Calls along a source -/

/-- An encryption that was asked for: what came of it, and where the source stood before it and after it. -/
structure Call where
  answer : Except Failure Bytes
  start : Nat
  finish : Nat

/-- A call whose ciphertext ends in the octets that it has drawn, and that draws nothing if there are none to
be had. -/
structure Call.OwnsNonce (call : Call) (entropy : Entropy) : Prop where
  nonce : ∀ ciphertext, call.answer = .ok ciphertext →
    call.finish = call.start + Aes.Gcm.nonceLength ∧
      ∃ front, ciphertext = front ++ entropy.slice call.start Aes.Gcm.nonceLength
  dry : call.answer = .error (.fault .randomnessFailed) → call.finish = call.start

/-- A stretch of a source, and the calls that drew from it, each behind the ones before it. -/
structure Stretch (before after : Entropy) (calls : List Call) : Prop where
  moved : ∃ count, after = before.past count
  within : ∀ call ∈ calls, before.position ≤ call.start ∧ call.finish ≤ after.position
  apart : calls.Pairwise fun earlier later => earlier.finish ≤ later.start
  owned : ∀ call ∈ calls, call.OwnsNonce before

/-- A call that draws a nonce and nothing else has it to itself. -/
theorem DrawsNonce.ownsNonce {before after : Entropy} {answer : Except Failure Bytes}
    (h : DrawsNonce before answer after) :
    Call.OwnsNonce ⟨answer, before.position, after.position⟩ before := by
  cases h with
  | encrypted front =>
    refine ⟨?_, nofun⟩
    rintro ciphertext answered
    cases answered
    exact ⟨rfl, front, rfl⟩
  | wasted octets => exact ⟨nofun, nofun⟩
  | undrawn failure => exact ⟨nofun, fun _ => rfl⟩

/-- A call that draws a nonce and nothing else moves the source forward, if at all. -/
theorem DrawsNonce.moved {before after : Entropy} {answer : Except Failure Bytes}
    (h : DrawsNonce before answer after) : ∃ count, after = before.past count := by
  cases h with
  | encrypted front => exact ⟨_, rfl⟩
  | wasted octets => exact ⟨_, rfl⟩
  | undrawn failure => exact ⟨0, rfl⟩

namespace Stretch

variable {before middle after : Entropy} {calls more : List Call}

/-- A stretch that no call draws from. -/
theorem silent (count : Nat) : Stretch before (before.past count) [] :=
  ⟨⟨count, rfl⟩, nofun, .nil, nofun⟩

/-- A stretch that one call draws from. -/
theorem of_drawsNonce {answer : Except Failure Bytes} (h : DrawsNonce before answer after) :
    Stretch before after [⟨answer, before.position, after.position⟩] := by
  refine ⟨h.moved, ?_, List.pairwise_singleton _ _, ?_⟩
  · intro call member
    obtain rfl := List.mem_singleton.mp member
    exact ⟨Nat.le_refl _, Nat.le_refl _⟩
  · intro call member
    obtain rfl := List.mem_singleton.mp member
    exact h.ownsNonce

/-- The source does not go back. -/
theorem position_le (h : Stretch before after calls) : before.position ≤ after.position := by
  obtain ⟨count, rfl⟩ := h.moved
  exact Nat.le_add_right _ _

/-- One stretch behind another. -/
theorem append (h : Stretch before middle calls) (h' : Stretch middle after more) :
    Stretch before after (calls ++ more) := by
  have start := h.position_le
  have finish := h'.position_le
  refine ⟨?_, ?_, ?_, ?_⟩
  · obtain ⟨count, rfl⟩ := h.moved
    obtain ⟨further, rfl⟩ := h'.moved
    exact ⟨count + further, Entropy.past_past _ _ _⟩
  · intro call member
    rcases List.mem_append.mp member with member | member
    · have within := h.within call member
      omega
    · have within := h'.within call member
      omega
  · rw [List.pairwise_append]
    refine ⟨h.apart, h'.apart, ?_⟩
    intro earlier member later member'
    exact Nat.le_trans (h.within earlier member).2 (h'.within later member').1
  · intro call member
    rcases List.mem_append.mp member with member | member
    · exact h.owned call member
    · have owned := h'.owned call member
      -- both stretches are of one source, so they have the same octets
      obtain ⟨count, rfl⟩ := h.moved
      exact ⟨owned.nonce, owned.dry⟩

end Stretch

/-! ## Correspondences -/

/-- Envelopes that draw from one source. -/
structure Correspondence where
  envelopes : List Envelope
  entropy : Entropy

namespace Correspondence

/-- What an envelope is begun with: a payload of its own, or a message that was received. -/
inductive Origin where
  | made (occasion : Occasion) (payload : Payload)
  | received (message : Message)

/-- The envelope that is begun under options. -/
def Origin.begin (options : Options) : Origin → Drawing Fault Envelope
  | .made occasion payload => Envelope.create occasion payload options
  | .received message => Envelope.wrap message options

/-- What may happen in a correspondence. -/
inductive Move where
  /-- A cipher is called by itself. -/
  | encrypt (cipher : PayloadCipher) (text : Bytes)
  /-- An envelope is begun in reply to the one with an index; other options are set before and after. -/
  | reply (index : Nat) (origin : Origin) (options : Options) (later : List Setting)
  /-- The envelope with an index takes a step. -/
  | take (index : Nat) (transition : Transition)

/-- A cipher is called by itself. -/
def encrypt (state : Correspondence) (cipher : PayloadCipher) (text : Bytes) :
    Correspondence × List Call :=
  let ran := (Envelope.faulting (cipher.encrypt text)).runFrom state.entropy
  (⟨state.envelopes, ran.2⟩, [⟨ran.1, state.entropy.position, ran.2.position⟩])

/-- An envelope is begun under options. If that fails there is none. -/
def begin (state : Correspondence) (origin : Origin) (options : Options) : Correspondence :=
  match (origin.begin options).runFrom state.entropy with
  | (.ok new, rest) => ⟨state.envelopes ++ [new], rest⟩
  | (.error _, rest) => ⟨state.envelopes, rest⟩

/-- An envelope takes a step. Encryptions are calls of its cipher. -/
def take (state : Correspondence) (index : Nat) (envelope : Envelope) (transition : Transition) :
    Correspondence × List Call :=
  let step := envelope.take transition state.entropy
  (⟨state.envelopes.set index step.envelope, step.entropy⟩,
    if transition = .encryption then
      [⟨step.ciphertext, state.entropy.position, step.entropy.position⟩]
    else [])

/-- The correspondence after a move, and the calls in it. Nothing is done with an envelope that there is
not. -/
def move (state : Correspondence) : Move → Correspondence × List Call
  | .encrypt cipher text => state.encrypt cipher text
  | .reply index origin options later =>
    match state.envelopes[index]? with
    | some envelope =>
      (state.begin origin (later.foldl Options.set (options.set (.inReplyTo envelope))), [])
    | none => (state, [])
  | .take index transition =>
    match state.envelopes[index]? with
    | some envelope => state.take index envelope transition
    | none => (state, [])

/-- The correspondence after moves in order. -/
def after (state : Correspondence) (moves : List Move) : Correspondence :=
  moves.foldl (fun current move => (current.move move).1) state

/-- The calls of a correspondence, in order. -/
def calls (state : Correspondence) : List Move → List Call
  | [] => []
  | move :: moves => (state.move move).2 ++ (state.move move).1.calls moves

/-- A correspondence in which every envelope has a cipher. -/
def Equipped (state : Correspondence) : Prop :=
  ∀ envelope ∈ state.envelopes, ∃ cipher, envelope.cipher = some cipher

/-! ### Moves -/

section Moves

variable {state : Correspondence} {envelope : Envelope} {cipher : PayloadCipher}

/-- However an envelope is begun, options are applied to what there is. -/
theorem Origin.exists_apply (origin : Origin) (options : Options) :
    ∃ blank, origin.begin options = options.apply blank := by
  cases origin with
  | made occasion payload => exact ⟨_, rfl⟩
  | received message => exact ⟨_, rfl⟩

/-- A beginning under options with a choice of cipher leaves every envelope with a cipher. -/
theorem equipped_begin (equipped : state.Equipped) (origin : Origin) {options : Options}
    (h : ∃ choice, options.cipher = some choice) : (state.begin origin options).Equipped := by
  obtain ⟨blank, applied⟩ := origin.exists_apply options
  rw [begin, applied]
  split
  · rename_i new rest begun
    intro other member
    rcases List.mem_append.mp member with member | member
    · exact equipped other member
    · obtain rfl := List.mem_singleton.mp member
      exact Options.exists_cipher_of_apply h begun
  · exact equipped

/-- A beginning moves the source forward. -/
theorem stretch_begin (state : Correspondence) (origin : Origin) (options : Options) :
    Stretch state.entropy (state.begin origin options).entropy [] := by
  obtain ⟨blank, applied⟩ := origin.exists_apply options
  obtain ⟨count, moved⟩ := options.forward_apply blank state.entropy
  rw [begin, applied]
  split
  · rename_i new rest begun
    rw [begun] at moved
    cases moved
    exact .silent count
  · rename_i fault rest failed
    rw [failed] at moved
    cases moved
    exact .silent count

/-- Settings that are made in reply to an envelope with a cipher have a choice of cipher. -/
theorem exists_choice_reply (equipped : envelope.cipher = some cipher) (options : Options)
    (later : List Setting) :
    ∃ choice, (later.foldl Options.set (options.set (.inReplyTo envelope))).cipher = some choice :=
  Options.exists_choice_foldl ⟨_, Options.cipher_inReplyTo equipped options⟩ later

/-- A step leaves an envelope with a cipher with one. -/
theorem cipher_take (equipped : envelope.cipher = some cipher) (transition : Transition)
    (entropy : Entropy) :
    ∃ cipher, (envelope.take transition entropy).envelope.cipher = some cipher := by
  cases outcome : (envelope.take transition entropy).outcome with
  | ok _ =>
    have step := Envelope.advances_of_take outcome
    generalize (envelope.take transition entropy).envelope = after at step ⊢
    cases step with
    | encryption _ _ _ => exact ⟨_, rfl⟩
    | sealing _ _ _ _ => exact ⟨cipher, equipped⟩
    | unsealing _ _ _ _ _ => exact ⟨cipher, equipped⟩
    | decryption _ _ => exact ⟨_, rfl⟩
  | error failure =>
    rcases Envelope.envelope_take_of_error outcome with same | ⟨drawn, -, kept⟩
    · rw [same]
      exact ⟨cipher, equipped⟩
    · rw [kept]
      exact ⟨drawn, rfl⟩

/-- A move leaves every envelope with a cipher. -/
theorem equipped_move (equipped : state.Equipped) (move : Move) : (state.move move).1.Equipped := by
  cases move with
  | encrypt cipher text => exact equipped
  | reply index origin options later =>
    rw [Correspondence.move]
    split
    · rename_i envelope found
      obtain ⟨cipher, held⟩ := equipped envelope (List.mem_of_getElem? found)
      exact equipped_begin equipped origin (exists_choice_reply held options later)
    · exact equipped
  | take index transition =>
    rw [Correspondence.move]
    split
    · rename_i envelope found
      obtain ⟨cipher, held⟩ := equipped envelope (List.mem_of_getElem? found)
      intro other member
      rcases List.mem_or_eq_of_mem_set member with member | rfl
      · exact equipped other member
      · exact cipher_take held transition state.entropy
    · exact equipped

/-- A step of an envelope with a cipher is a stretch of the source. -/
theorem stretch_take (equipped : envelope.cipher = some cipher) (index : Nat)
    (transition : Transition) :
    Stretch state.entropy (state.take index envelope transition).1.entropy
      (state.take index envelope transition).2 := by
  cases transition with
  | encryption => exact .of_drawsNonce (Envelope.drawsNonce_encrypt equipped state.entropy)
  | sealing =>
    have left : (envelope.take .sealing state.entropy).entropy
        = (envelope.sealed.runFrom state.entropy).2 := by
      rw [Envelope.take, Envelope.sealSecrets_eq, Envelope.entropy_attempt]
    obtain ⟨count, moved⟩ := envelope.forward_sealed state.entropy
    show Stretch state.entropy (envelope.take .sealing state.entropy).entropy []
    rw [left, moved]
    exact .silent count
  | unsealing =>
    obtain ⟨outcome, after, taken⟩ := Envelope.take_of_recipient (.inl rfl) envelope
    show Stretch state.entropy (envelope.take .unsealing state.entropy).entropy []
    rw [taken]
    exact .silent 0
  | decryption =>
    obtain ⟨outcome, after, taken⟩ := Envelope.take_of_recipient (.inr rfl) envelope
    show Stretch state.entropy (envelope.take .decryption state.entropy).entropy []
    rw [taken]
    exact .silent 0

/-- **A move is a stretch of the source**, if all envelopes have a cipher. -/
theorem stretch_move (equipped : state.Equipped) (move : Move) :
    Stretch state.entropy (state.move move).1.entropy (state.move move).2 := by
  cases move with
  | encrypt cipher text =>
    exact .of_drawsNonce (cipher.drawsNonce_encrypt text state.entropy)
  | reply index origin options later =>
    rw [Correspondence.move]
    split
    · exact state.stretch_begin origin _
    · exact .silent 0
  | take index transition =>
    rw [Correspondence.move]
    split
    · rename_i envelope found
      obtain ⟨cipher, held⟩ := equipped envelope (List.mem_of_getElem? found)
      exact stretch_take held index transition
    · exact .silent 0

end Moves

/-! ### Runs -/

/-- **A correspondence is a stretch of the source**, which its calls draw from one behind the other, if all
envelopes that it starts with have a cipher. -/
theorem stretch_calls {state : Correspondence} (equipped : state.Equipped) (moves : List Move) :
    Stretch state.entropy (state.after moves).entropy (state.calls moves) := by
  induction moves generalizing state with
  | nil => exact .silent 0
  | cons move moves ih =>
    exact (stretch_move equipped move).append (ih (equipped_move equipped move))

end Correspondence

end SealedTransfer
