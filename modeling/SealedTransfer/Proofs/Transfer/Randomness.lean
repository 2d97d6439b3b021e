/-
# SealedTransfer.Proofs.Transfer.Randomness — what is drawn, by whom and in which order

A recipient draws nothing, whatever is received: not even a missing key is made up for. A sender without a
cipher draws a key, a nonce and one seed for each of the two secrets, in this order and nothing in between, so
that no octet serves twice. And a cipher that serves for many messages draws another nonce for each.
-/
import SealedTransfer.Proofs.Envelope.Correspondence
import SealedTransfer.Proofs.Transfer.Authentic
import SealedTransfer.Proofs.Transfer.Exchange

namespace SealedTransfer

/-! ## Receiving -/

namespace Transfer

/-- Opening an envelope draws nothing. -/
theorem drawsNothing_openEnvelope (envelope : Envelope) : (openEnvelope envelope).DrawsNothing := by
  have unsealing : (unsealIfSealed envelope).DrawsNothing := by
    unfold unsealIfSealed
    split
    · exact ⟨_, runFrom_advance_unsealing envelope⟩
    · exact .pure envelope
  have decryption (unsealed : Envelope) : (advance .decryption unsealed).DrawsNothing := by
    obtain ⟨result, ran⟩ := unsealed.drawsNothing_decrypted
    refine ⟨result, ?_⟩
    intro entropy
    rw [runFrom_advance_decryption, ran]
  refine .bind (.ofExcept _) fun _ => ?_
  refine .bind unsealing fun unsealed => ?_
  exact .bind (decryption unsealed) fun clear => (Drawing.DrawsNothing.ofExcept _).faulting

/-- **Opening a message draws nothing**, unless the options ask for a key to be drawn. -/
theorem drawsNothing_openPayload {options : Options} (given : ¬ options.DrawsKey)
    (message : Message) : (openPayload message options).DrawsNothing :=
  .bind (Options.drawsNothing_apply given _).faulting fun envelope =>
    drawsNothing_openEnvelope envelope

end Transfer

/-! ## Sealing -/

/-- A message whose key, nonce and seeds are the next octets of a source, in this order. The key is the
secret as well, so it is wrapped twice, each time under a seed of its own. -/
structure Message.DrawnFrom (message : Message) (text : Bytes) (recipient : Rsa.PublicKey)
    (entropy : Entropy) : Prop where
  payload : ∃ key : Aes.Key, key.octets = entropy.slice entropy.position 32 ∧
    message.payload = Aes.Gcm.encrypt key (entropy.slice (entropy.position + 32) 12) text
      ++ entropy.slice (entropy.position + 32) 12
  encryptionKey : message.encryptionKey = Rsa.Oaep.encrypt recipient
    (entropy.slice (entropy.position + 44) 64) (entropy.slice entropy.position 32)
  hmacSecret : message.hmacSecret = Rsa.Oaep.encrypt recipient
    (entropy.slice (entropy.position + 108) 64) (entropy.slice entropy.position 32)

namespace Envelope

variable {envelope after : Envelope} {entropy rest : Entropy}

/-- A new envelope without a cipher costs nothing. -/
theorem create_of_unequipped {occasion : Occasion} {payload : Payload} {options : Options}
    (unequipped : options.cipher = none)
    (made : (create occasion payload options).runFrom entropy = (.ok envelope, rest)) :
    envelope.cipher = none ∧ rest = entropy := by
  obtain ⟨cipher, sealCipher, drawn, rfl⟩ := Options.runFrom_apply_eq_ok.mp made
  simp only [Options.ciphers, unequipped, Option.mapM_none, Drawing.runFrom_bind_eq_ok,
    Drawing.runFrom_ofExcept_eq_ok, Drawing.runFrom_pure_eq_ok] at drawn
  obtain ⟨_, _, ⟨rfl, rfl⟩, _, _, ⟨-, rfl⟩, same, rfl⟩ := drawn
  obtain ⟨rfl, -⟩ := Prod.mk.inj same
  exact ⟨rfl, rfl⟩

/-- An encryption without a cipher draws a key and then a nonce. -/
theorem encrypted_of_unequipped {payload : Payload} (clear : envelope.payload = some payload)
    (unequipped : envelope.cipher = none)
    (encrypted : envelope.encrypt entropy = ⟨.ok (), after, rest⟩) :
    after = envelope.encryptedFrom payload (.generated entropy) (PayloadCipher.generatedKey entropy)
        (entropy.past 32) ∧
      rest = entropy.past 44 := by
  rw [encrypt_of_unequipped clear unequipped] at encrypted
  by_cases key : entropy.canGive PayloadCipher.generatedLength
  · rw [if_pos key, encrypt_of_generated clear] at encrypted
    split at encrypted
    · cases encrypted
      exact ⟨rfl, Entropy.past_past _ _ _⟩
    · cases encrypted
  · rw [if_neg key] at encrypted
    cases encrypted

/-- A sealing draws a seed for the key and then one for the secret. -/
theorem sealed_eq_ok (h : envelope.sealed.runFrom entropy = (.ok after, rest)) :
    ∃ cipher, envelope.sealCipher = some cipher ∧
      after.message.payload = envelope.message.payload ∧
      after.message.encryptionKey = Rsa.Oaep.encrypt cipher.publicHalf
        (entropy.slice entropy.position 64) envelope.message.encryptionKey ∧
      after.message.hmacSecret = Rsa.Oaep.encrypt cipher.publicHalf
        (entropy.slice (entropy.position + 64) 64) envelope.message.hmacSecret ∧
      rest = entropy.past 128 := by
  simp only [sealed, Drawing.runFrom_bind_eq_ok, Drawing.runFrom_ofExcept_eq_ok,
    runFrom_faulting_eq_ok, Drawing.runFrom_pure_eq_ok, chosenSeal_eq_ok,
    SealCipher.runFrom_encrypt_eq_ok] at h
  obtain ⟨_, _, ⟨-, rfl⟩, cipher, _, ⟨chosen, rfl⟩, key, _, ⟨-, -, wrappedKey, rfl⟩, secret, _,
    ⟨-, -, wrappedSecret, rfl⟩, rfl, rfl⟩ := h
  exact ⟨cipher, chosen, rfl, wrappedKey, wrappedSecret, Entropy.past_past _ _ _⟩

end Envelope

namespace Transfer

/-- **Sealing without a cipher draws a key, a nonce and two seeds**, and nothing else. -/
theorem drawnFrom_of_sealPayload {occasion : Occasion} {payload : Payload} {options : Options}
    {message : Message} {entropy rest : Entropy} (unequipped : options.cipher = none)
    (closed : (sealPayload occasion payload options).runFrom entropy = (.ok message, rest)) :
    ∃ cipher, options.sealCipher.mapM SealChoice.cipher = .ok (some cipher) ∧
      message.DrawnFrom payload.encode cipher.publicHalf entropy ∧ rest = entropy.past 172 := by
  obtain ⟨new, _, unsealed, _, sealed, made, encryption, sealing, rfl⟩ :=
    steps_of_sealUnchecked (sealUnchecked_of_sealPayload closed)
  obtain ⟨clear, -, -, chosen⟩ := Envelope.of_create made
  obtain ⟨bare, rfl⟩ := Envelope.create_of_unequipped unequipped made
  obtain ⟨rfl, rfl⟩ := Envelope.encrypted_of_unequipped clear bare (take_of_advance encryption)
  rw [runFrom_advance_sealing] at sealing
  obtain ⟨cipher, recipient, samePayload, wrappedKey, wrappedSecret, rfl⟩ :=
    Envelope.sealed_eq_ok sealing
  have recipient' : new.sealCipher = some cipher := recipient
  refine ⟨cipher, chosen.trans (congrArg Except.ok recipient'), ⟨?_, wrappedKey, ?_⟩, ?_⟩
  · exact ⟨PayloadCipher.generatedKey _, rfl, samePayload⟩
  · exact wrappedSecret
  · exact Entropy.past_past _ _ _

end Transfer

/-! ## Everything that is drawn -/

/-- **No octet is drawn twice, and a recipient draws none.**

Whoever receives draws nothing: wrapping and opening a message has one outcome on all sources, which it
leaves as they are, unless the options ask for a key to be drawn; so has unsealing or decrypting any envelope.
Whoever seals without a cipher takes the key, the nonce and the seeds from the front of the source, one behind
the other. Whatever is begun in reply to an envelope shares its cipher and draws nothing; and in every
correspondence of envelopes with ciphers, each ciphertext ends in octets of the source that are drawn for no
other, while a call that finds the source too short draws nothing. -/
theorem drawn_once :
    (∀ (message : Message) (options : Options), ¬ options.DrawsKey →
      (Envelope.wrap message options).DrawsNothing ∧
        (Transfer.openPayload message options).DrawsNothing) ∧
    (∀ (envelope : Envelope) (transition : Transition),
      transition = .unsealing ∨ transition = .decryption →
      ∃ outcome after, ∀ entropy, envelope.take transition entropy = ⟨outcome, after, entropy⟩) ∧
    (∀ (occasion : Occasion) (payload : Payload) (options : Options) (message : Message)
      (entropy rest : Entropy), options.cipher = none →
      (Transfer.sealPayload occasion payload options).runFrom entropy = (.ok message, rest) →
      ∃ cipher, options.sealCipher.mapM SealChoice.cipher = .ok (some cipher) ∧
        message.DrawnFrom payload.encode cipher.publicHalf entropy ∧ rest = entropy.past 172) ∧
    (∀ (envelope new : Envelope) (cipher : PayloadCipher) (origin : Correspondence.Origin)
      (options : Options) (entropy rest : Entropy), envelope.cipher = some cipher →
      (origin.begin (options.set (.inReplyTo envelope))).runFrom entropy = (.ok new, rest) →
      new.cipher = some cipher ∧ rest = entropy) ∧
    (∀ (state : Correspondence) (moves : List Correspondence.Move), state.Equipped →
      (state.calls moves).Pairwise (fun earlier later => earlier.finish ≤ later.start) ∧
        ∀ call ∈ state.calls moves,
          state.entropy.position ≤ call.start ∧ call.OwnsNonce state.entropy) := by
  refine ⟨?wrapping, ?steps, ?sealing, ?sharing, ?calls⟩
  case wrapping =>
    intro message options given
    exact ⟨Options.drawsNothing_apply given _, Transfer.drawsNothing_openPayload given message⟩
  case steps =>
    intro envelope transition receiving
    exact envelope.take_of_recipient receiving
  case sealing =>
    intro occasion payload options message entropy rest unequipped closed
    exact Transfer.drawnFrom_of_sealPayload unequipped closed
  case sharing =>
    intro envelope new cipher origin options entropy rest equipped begun
    obtain ⟨blank, applied⟩ := origin.exists_apply (options.set (.inReplyTo envelope))
    rw [applied] at begun
    exact Options.shared_of_inReplyTo equipped begun
  case calls =>
    intro state moves equipped
    have stretch := Correspondence.stretch_calls equipped moves
    refine ⟨stretch.apart, ?_⟩
    intro call member
    exact ⟨(stretch.within call member).1, stretch.owned call member⟩

/-- A clear envelope with a cipher. -/
def Envelope.sampleEquipped : Envelope :=
  ⟨Transfer.sampleMessage, some .empty, some Transfer.sampleCipher, none⟩

/-- A message that is opened, a payload that is sealed, an envelope that is begun in reply to another, and
three calls of the cipher that the two share. -/
theorem drawn_once_in_samples :
    (Transfer.openPayload Transfer.sampleMessage .none).DrawsNothing ∧
    (∃ outcome after, ∀ entropy, (Envelope.ofMessage Transfer.sampleMessage).take .decryption entropy
      = ⟨outcome, after, entropy⟩) ∧
    (∃ message rest, (Transfer.sealPayload ⟨⟨0⟩, .epoch⟩ Transfer.completePayload
        (Options.none.set (.sealingKey (.rsa Rsa.PrivateKey.mersenne.publicHalf)))).runFrom
          ⟨fun _ => 1, 0, none⟩ = (.ok message, rest) ∧
      message.DrawnFrom Transfer.completePayload.encode Rsa.PrivateKey.mersenne.publicHalf
        ⟨fun _ => 1, 0, none⟩ ∧ rest.position = 172) ∧
    (∃ new rest, (Envelope.create ⟨⟨0⟩, .epoch⟩ .empty
        (Options.none.set (.inReplyTo Envelope.sampleEquipped))).runFrom ⟨UInt8.ofNat, 0, some 30⟩
          = (.ok new, rest) ∧
      new.cipher = some Transfer.sampleCipher ∧ rest.position = 0) ∧
    (∃ first second last : Call,
      Correspondence.calls ⟨[Envelope.sampleEquipped], ⟨UInt8.ofNat, 0, some 30⟩⟩
        [.take 0 .encryption, .reply 0 (.made ⟨⟨0⟩, .epoch⟩ .empty) .none [], .take 1 .encryption,
          .encrypt Transfer.sampleCipher []] = [first, second, last] ∧
      first.finish ≤ second.start ∧ second.finish ≤ last.start) := by
  obtain ⟨wrapping, steps, sealing, sharing, calls⟩ := drawn_once
  refine ⟨?_, ?_, ?_, ?_, ?_⟩
  · exact (wrapping Transfer.sampleMessage .none nofun).2
  · exact steps _ .decryption (.inr rfl)
  · obtain ⟨message, rest, closed⟩ := Transfer.exists_sealed_completePayload
    obtain ⟨cipher, chosen, drawn, rfl⟩ := sealing _ _ _ _ _ _ rfl closed
    obtain rfl : .recipient Rsa.PrivateKey.mersenne.publicHalf = cipher :=
      Option.some.inj (Except.ok.inj chosen)
    exact ⟨message, _, closed, drawn, rfl⟩
  · obtain ⟨new, rest, begun⟩ : ∃ new rest, (Envelope.create ⟨⟨0⟩, .epoch⟩ .empty
        (Options.none.set (.inReplyTo Envelope.sampleEquipped))).runFrom ⟨UInt8.ofNat, 0, some 30⟩
          = (.ok new, rest) := ⟨_, _, rfl⟩
    obtain ⟨shared, rfl⟩ := sharing Envelope.sampleEquipped new Transfer.sampleCipher
      (.made ⟨⟨0⟩, .epoch⟩ .empty) .none _ rest rfl begun
    exact ⟨new, _, begun, shared, rfl⟩
  · have equipped : Correspondence.Equipped
        ⟨[Envelope.sampleEquipped], ⟨UInt8.ofNat, 0, some 30⟩⟩ := by
      intro envelope member
      obtain rfl := List.mem_singleton.mp member
      exact ⟨Transfer.sampleCipher, rfl⟩
    obtain ⟨apart, -⟩ := calls _ [.take 0 .encryption, .reply 0 (.made ⟨⟨0⟩, .epoch⟩ .empty) .none [],
      .take 1 .encryption, .encrypt Transfer.sampleCipher []] equipped
    obtain ⟨firstApart, apart'⟩ := List.pairwise_cons.mp apart
    obtain ⟨secondApart, -⟩ := List.pairwise_cons.mp apart'
    exact ⟨_, _, _, rfl, firstApart _ (.head _), secondApart _ (.head _)⟩

end SealedTransfer
