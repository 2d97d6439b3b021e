/-
# SealedTransfer.Proofs.Key.Resolution — which key PEM blocks stand for

Of the blocks of key data some hold a certificate, some a key by itself, and others do not count. Once all
that count can be read, how many there are of each kind decides: one key by itself, or the key of the
first certificate where there is no other key, and everything else is refused. So blocks that do not count
change nothing, and of the order only which certificate is first.
-/
import SealedTransfer.Proofs.Key.Exchanged
import SealedTransfer.Proofs.Pem.Tagged

namespace SealedTransfer

namespace KeyData

/-! ## Blocks by themselves -/

/-- The tags of blocks that hold a key by itself. -/
def keyTags : List String := [publicKeyTag, rsaPublicKeyTag]

/-- The tags of blocks that count. -/
def countedTags : List String := certificateTag :: keyTags

/-- What a block means. A block for RSA keys may hold either form of them, and the common one comes
first. -/
inductive Means (block : Pem.Block) : Item → Prop
  | certificate {certificate : Certificate} (tagged : block.tag = certificateTag)
      (read : Certificate.decode? block.contents = some certificate) :
      Means block (.certificate certificate)
  | key {key : PublicKey} (tagged : block.tag ∈ keyTags)
      (read : PublicKey.decode? block.contents = some key) : Means block (.key key)
  | legacy {key : Rsa.PublicKey} (tagged : block.tag = rsaPublicKeyTag)
      (uncommon : PublicKey.decode? block.contents = none)
      (read : Rsa.PublicKey.decode? block.contents = some key) : Means block (.key (.rsa key))
  | ignored (foreign : block.tag ∉ countedTags) : Means block .ignored

/-- A block that spoils key data: it counts, and it does not hold what its tag says. -/
inductive IsMalformed (block : Pem.Block) : Prop
  | certificate (tagged : block.tag = certificateTag)
      (unread : Certificate.decode? block.contents = none)
  | key (tagged : block.tag = publicKeyTag) (unread : PublicKey.decode? block.contents = none)
  | legacy (tagged : block.tag = rsaPublicKeyTag)
      (uncommon : PublicKey.decode? block.contents = none)
      (unread : Rsa.PublicKey.decode? block.contents = none)

section Blocks

variable {block : Pem.Block} {item : Item}

/-- **A block is read as what it means.** -/
theorem item?_eq_some_iff : item? block = some item ↔ Means block item := by
  constructor
  · intro read
    unfold item? at read
    split at read
    · rename_i tagged
      obtain ⟨certificate, found, rfl⟩ := Option.map_eq_some_iff.mp read
      exact .certificate tagged found
    split at read
    · rename_i tagged
      obtain ⟨key, found, rfl⟩ := Option.map_eq_some_iff.mp read
      exact .key (by simp [keyTags, tagged]) found
    split at read
    · rename_i tagged
      obtain ⟨key, found, rfl⟩ := Option.map_eq_some_iff.mp read
      unfold legacyKey? at found
      split at found
      · rename_i common
        cases found
        exact .key (by simp [keyTags, tagged]) common
      · rename_i uncommon
        obtain ⟨inner, legacy, rfl⟩ := Option.map_eq_some_iff.mp found
        exact .legacy tagged uncommon legacy
    · cases read
      exact .ignored (by simp [countedTags, keyTags, *])
  · intro means
    cases means with
    | certificate tagged read => rw [item?, if_pos tagged, read, Option.map_some]
    | key tagged read =>
      simp only [keyTags, List.mem_cons, List.not_mem_nil, or_false] at tagged
      rcases tagged with common | legacy
      · rw [item?, common, if_neg (by decide), if_pos rfl, read, Option.map_some]
      · rw [item?, legacy, if_neg (by decide), if_neg (by decide), if_pos rfl, legacyKey?, read,
          Option.map_some]
    | legacy tagged uncommon read =>
      rw [item?, tagged, if_neg (by decide), if_neg (by decide), if_pos rfl, legacyKey?, uncommon, read,
        Option.map_some, Option.map_some]
    | ignored foreign =>
      simp only [countedTags, keyTags, List.mem_cons, List.not_mem_nil, or_false, not_or] at foreign
      rw [item?, if_neg foreign.1, if_neg foreign.2.1, if_neg foreign.2.2]

/-- **A block is not read if it is malformed.** -/
theorem item?_eq_none_iff : item? block = none ↔ IsMalformed block := by
  constructor
  · intro unread
    unfold item? at unread
    split at unread
    · rename_i tagged
      exact .certificate tagged (Option.map_eq_none_iff.mp unread)
    split at unread
    · rename_i tagged
      exact .key tagged (Option.map_eq_none_iff.mp unread)
    split at unread
    · rename_i tagged
      have neither := Option.map_eq_none_iff.mp unread
      unfold legacyKey? at neither
      split at neither
      · cases neither
      · rename_i uncommon
        exact .legacy tagged uncommon (Option.map_eq_none_iff.mp neither)
    · cases unread
  · intro malformed
    cases malformed with
    | certificate tagged unread => rw [item?, if_pos tagged, unread, Option.map_none]
    | key tagged unread =>
      rw [item?, tagged, if_neg (by decide), if_pos rfl, unread, Option.map_none]
    | legacy tagged uncommon unread =>
      rw [item?, tagged, if_neg (by decide), if_neg (by decide), if_pos rfl, legacyKey?, uncommon,
        unread, Option.map_none, Option.map_none]

/-- A block means one thing. -/
theorem Means.unique {other : Item} (means : Means block item) (means' : Means block other) :
    item = other :=
  Option.some.inj ((item?_eq_some_iff.mpr means).symm.trans (item?_eq_some_iff.mpr means'))

/-- A block that means something is not malformed. -/
theorem Means.sound (means : Means block item) : ¬ IsMalformed block := by
  intro malformed
  cases (item?_eq_some_iff.mpr means).symm.trans (item?_eq_none_iff.mpr malformed)

/-- A malformed block counts. -/
theorem IsMalformed.counted (malformed : IsMalformed block) : block.tag ∈ countedTags := by
  cases malformed with
  | certificate tagged unread => exact tagged ▸ by decide
  | key tagged unread => exact tagged ▸ by decide
  | legacy tagged uncommon unread => exact tagged ▸ by decide

/-- A block that is not malformed means something. -/
theorem exists_means (sound : ¬ IsMalformed block) : ∃ item, Means block item := by
  cases read : item? block with
  | none => exact absurd (item?_eq_none_iff.mp read) sound
  | some item => exact ⟨item, item?_eq_some_iff.mp read⟩

end Blocks

/-! ## Blocks together -/

/-- The blocks that hold certificates. -/
def certificateBlocks (blocks : List Pem.Block) : List Pem.Block := Pem.tagged [certificateTag] blocks

/-- The blocks that hold keys by themselves. -/
def keyBlocks (blocks : List Pem.Block) : List Pem.Block := Pem.tagged keyTags blocks

/-- What blocks are resolved to: a malformed block spoils them all, and of sound ones it matters how many
there are of each kind. -/
inductive Resolves (blocks : List Pem.Block) : Except Fault PublicKey → Prop
  | spoiled {block : Pem.Block} (among : block ∈ blocks) (malformed : IsMalformed block) :
      Resolves blocks (.error .unknownKeyForm)
  | ambiguous (sound : ∀ block ∈ blocks, ¬ IsMalformed block)
      (certified : 0 < (certificateBlocks blocks).length) (keyed : 0 < (keyBlocks blocks).length) :
      Resolves blocks (.error .ambiguousKeyData)
  | several (sound : ∀ block ∈ blocks, ¬ IsMalformed block)
      (uncertified : (certificateBlocks blocks).length = 0) (keyed : 1 < (keyBlocks blocks).length) :
      Resolves blocks (.error .severalPublicKeys)
  | single {block : Pem.Block} {key : PublicKey} (sound : ∀ block ∈ blocks, ¬ IsMalformed block)
      (uncertified : (certificateBlocks blocks).length = 0) (only : keyBlocks blocks = [block])
      (means : Means block (.key key)) : Resolves blocks (.ok key)
  | leaf {block : Pem.Block} {certificate : Certificate}
      (sound : ∀ block ∈ blocks, ¬ IsMalformed block)
      (first : (certificateBlocks blocks).head? = some block)
      (means : Means block (.certificate certificate)) (unkeyed : (keyBlocks blocks).length = 0) :
      Resolves blocks certificate.publicKey
  | nothing (sound : ∀ block ∈ blocks, ¬ IsMalformed block)
      (uncertified : (certificateBlocks blocks).length = 0)
      (unkeyed : (keyBlocks blocks).length = 0) : Resolves blocks (.error .unknownKeyForm)

section Together

variable {blocks other : List Pem.Block} {block : Pem.Block} {answer : Except Fault PublicKey}

/-- A malformed block spoils the others. -/
theorem ofBlocks_of_malformed (among : block ∈ blocks) (malformed : IsMalformed block) :
    ofBlocks blocks = .error .unknownKeyForm := by
  have unread : blocks.mapM item? = none := by
    cases read : blocks.mapM item? with
    | none => rfl
    | some items =>
      obtain ⟨item, found⟩ := exists_forall₂_iff.mp ⟨items, mapM_eq_some_iff.mp read⟩ block among
      cases found.symm.trans (item?_eq_none_iff.mpr malformed)
  rw [ofBlocks, unread]

/-- Of sound blocks the certificates and the keys are chosen from. -/
theorem exists_choice (sound : ∀ block ∈ blocks, ¬ IsMalformed block) :
    ∃ certificates keys,
      List.Forall₂ (fun block c => Means block (.certificate c)) (certificateBlocks blocks)
        certificates ∧
      List.Forall₂ (fun block key => Means block (.key key)) (keyBlocks blocks) keys ∧
      ofBlocks blocks = choose certificates keys := by
  obtain ⟨items, means⟩ := exists_forall₂_iff.mpr fun block among => exists_means (sound block among)
  have read : blocks.mapM item? = some items :=
    mapM_eq_some_iff.mpr (means.imp fun _ _ => item?_eq_some_iff.mpr)
  refine ⟨certificates items, keys items, ?certificates, ?keys, by rw [ofBlocks, read]⟩
  case certificates =>
    refine Pem.forall₂_tagged ?_ ?_ means
    · intro block item means counts
      have named := List.mem_singleton.mp counts
      cases means with
      | certificate tagged read => exact ⟨_, rfl, .certificate tagged read⟩
      | key tagged read => exact absurd (named ▸ tagged) (by decide)
      | legacy tagged uncommon read => exact absurd (named.symm.trans tagged) (by decide)
      | ignored foreign => exact absurd (named ▸ foreign) (by decide)
    · intro block item means foreign
      cases means with
      | certificate tagged read => exact absurd (List.mem_singleton.mpr tagged) foreign
      | key | legacy | ignored => rfl
  case keys =>
    refine Pem.forall₂_tagged ?_ ?_ means
    · intro block item means counts
      cases means with
      | certificate tagged read => exact absurd (tagged ▸ counts) (by decide)
      | key tagged read => exact ⟨_, rfl, .key tagged read⟩
      | legacy tagged uncommon read => exact ⟨_, rfl, .legacy tagged uncommon read⟩
      | ignored foreign => exact absurd (List.mem_cons_of_mem _ counts) foreign
    · intro block item means foreign
      cases means with
      | key tagged read => exact absurd tagged foreign
      | legacy tagged uncommon read => exact absurd (tagged ▸ by decide) foreign
      | certificate | ignored => rfl

/-- What blocks give is what they are resolved to. -/
theorem resolves_ofBlocks (blocks : List Pem.Block) : Resolves blocks (ofBlocks blocks) := by
  by_cases spoiled : ∃ block ∈ blocks, IsMalformed block
  · obtain ⟨block, among, malformed⟩ := spoiled
    rw [ofBlocks_of_malformed among malformed]
    exact .spoiled among malformed
  · have sound : ∀ block ∈ blocks, ¬ IsMalformed block :=
      fun block among malformed => spoiled ⟨block, among, malformed⟩
    obtain ⟨certificates, keys, certified, keyed, chosen⟩ := exists_choice sound
    have countCertificates := certified.length_eq
    have countKeys := keyed.length_eq
    rw [chosen]
    match certificates, keys with
    | _ :: _, _ :: _ => exact .ambiguous sound (by simp [countCertificates]) (by simp [countKeys])
    | [], _ :: _ :: _ => exact .several sound countCertificates (by simp [countKeys])
    | [], [key] =>
      obtain ⟨block, rest, means, last, only⟩ := List.forall₂_cons_right_iff.mp keyed
      cases last
      exact .single sound countCertificates only means
    | leaf :: _, [] =>
      obtain ⟨block, rest, means, -, first⟩ := List.forall₂_cons_right_iff.mp certified
      exact .leaf sound (by rw [first, List.head?_cons]) means countKeys
    | [], [] => exact .nothing sound countCertificates countKeys

/-- Blocks give what they are resolved to. -/
theorem ofBlocks_of_resolves (resolves : Resolves blocks answer) : ofBlocks blocks = answer := by
  cases resolves with
  | spoiled among malformed => exact ofBlocks_of_malformed among malformed
  | ambiguous sound certified keyed =>
    obtain ⟨certificates, keys, certificatesRead, keysRead, chosen⟩ := exists_choice sound
    rw [certificatesRead.length_eq] at certified
    rw [keysRead.length_eq] at keyed
    obtain ⟨leaf, others, rfl⟩ := List.exists_cons_of_length_pos certified
    obtain ⟨key, more, rfl⟩ := List.exists_cons_of_length_pos keyed
    exact chosen
  | several sound uncertified keyed =>
    obtain ⟨certificates, keys, certificatesRead, keysRead, chosen⟩ := exists_choice sound
    rw [certificatesRead.length_eq, List.length_eq_zero_iff] at uncertified
    rw [keysRead.length_eq] at keyed
    subst uncertified
    match keys with
    | _ :: _ :: _ => exact chosen
  | single sound uncertified only means =>
    obtain ⟨certificates, keys, certificatesRead, keysRead, chosen⟩ := exists_choice sound
    rw [certificatesRead.length_eq, List.length_eq_zero_iff] at uncertified
    rw [only] at keysRead
    obtain ⟨key, more, means', last, rfl⟩ := List.forall₂_cons_left_iff.mp keysRead
    cases last
    cases means.unique means'
    subst uncertified
    exact chosen
  | leaf sound first means unkeyed =>
    obtain ⟨certificates, keys, certificatesRead, keysRead, chosen⟩ := exists_choice sound
    rw [keysRead.length_eq, List.length_eq_zero_iff] at unkeyed
    obtain ⟨tail, whole⟩ := List.head?_eq_some_iff.mp first
    rw [whole] at certificatesRead
    obtain ⟨leaf, others, means', -, rfl⟩ := List.forall₂_cons_left_iff.mp certificatesRead
    cases means.unique means'
    subst unkeyed
    exact chosen
  | nothing sound uncertified unkeyed =>
    obtain ⟨certificates, keys, certificatesRead, keysRead, chosen⟩ := exists_choice sound
    rw [certificatesRead.length_eq, List.length_eq_zero_iff] at uncertified
    rw [keysRead.length_eq, List.length_eq_zero_iff] at unkeyed
    subst uncertified unkeyed
    exact chosen

end Together

/-! ## What does not matter -/

/-- Lists with the same blocks that count, in any order, but with the same certificate first. -/
structure SameKinds (blocks other : List Pem.Block) : Prop where
  certificates : (certificateBlocks blocks).Perm (certificateBlocks other)
  leaf : (certificateBlocks blocks).head? = (certificateBlocks other).head?
  keys : (keyBlocks blocks).Perm (keyBlocks other)

namespace SameKinds

variable {blocks other : List Pem.Block} {block : Pem.Block} {answer : Except Fault PublicKey}

theorem symm (same : SameKinds blocks other) : SameKinds other blocks :=
  ⟨same.certificates.symm, same.leaf.symm, same.keys.symm⟩

/-- A block that counts is in both. -/
theorem mem (same : SameKinds blocks other) (counted : block.tag ∈ countedTags)
    (among : block ∈ blocks) : block ∈ other := by
  rcases List.mem_cons.mp counted with certificate | key
  · have here : block ∈ certificateBlocks blocks :=
      Pem.mem_tagged.mpr ⟨among, List.mem_singleton.mpr certificate⟩
    exact (Pem.mem_tagged.mp (same.certificates.mem_iff.mp here)).1
  · have here : block ∈ keyBlocks blocks := Pem.mem_tagged.mpr ⟨among, key⟩
    exact (Pem.mem_tagged.mp (same.keys.mem_iff.mp here)).1

theorem sound (same : SameKinds blocks other) (sound : ∀ block ∈ blocks, ¬ IsMalformed block) :
    ∀ block ∈ other, ¬ IsMalformed block := by
  intro block among malformed
  exact sound block (same.symm.mem malformed.counted among) malformed

/-- Such lists are resolved to the same. -/
theorem resolves (same : SameKinds blocks other) (resolves : Resolves blocks answer) :
    Resolves other answer := by
  cases resolves with
  | spoiled among malformed => exact .spoiled (same.mem malformed.counted among) malformed
  | ambiguous sound certified keyed =>
    rw [same.certificates.length_eq] at certified
    rw [same.keys.length_eq] at keyed
    exact .ambiguous (same.sound sound) certified keyed
  | several sound uncertified keyed =>
    rw [same.certificates.length_eq] at uncertified
    rw [same.keys.length_eq] at keyed
    exact .several (same.sound sound) uncertified keyed
  | single sound uncertified only means =>
    have keys := same.keys
    rw [only, List.singleton_perm] at keys
    rw [same.certificates.length_eq] at uncertified
    exact .single (same.sound sound) uncertified keys.symm means
  | leaf sound first means unkeyed =>
    rw [same.leaf] at first
    rw [same.keys.length_eq] at unkeyed
    exact .leaf (same.sound sound) first means unkeyed
  | nothing sound uncertified unkeyed =>
    rw [same.certificates.length_eq] at uncertified
    rw [same.keys.length_eq] at unkeyed
    exact .nothing (same.sound sound) uncertified unkeyed

/-- Such lists give the same. -/
theorem ofBlocks_eq (same : SameKinds blocks other) : ofBlocks blocks = ofBlocks other :=
  ofBlocks_of_resolves (same.symm.resolves (resolves_ofBlocks other))

/-- A block that does not count may be put in anywhere. -/
theorem insert (foreign : block.tag ∉ countedTags) (front rest : List Pem.Block) :
    SameKinds (front ++ block :: rest) (front ++ rest) := by
  have uncertified : block.tag ∉ [certificateTag] := by
    rw [List.mem_singleton]
    exact fun tagged => foreign (tagged ▸ List.mem_cons_self)
  have unkeyed : block.tag ∉ keyTags := fun tagged => foreign (List.mem_cons_of_mem _ tagged)
  have certificates := Pem.tagged_insert uncertified front rest
  exact ⟨.of_eq certificates, congrArg List.head? certificates,
    .of_eq (Pem.tagged_insert unkeyed front rest)⟩

/-- Blocks may be reordered as long as the first certificate is left the first. -/
theorem of_perm (same : blocks.Perm other)
    (leaf : (certificateBlocks blocks).head? = (certificateBlocks other).head?) :
    SameKinds blocks other :=
  ⟨Pem.tagged_perm same, leaf, Pem.tagged_perm same⟩

end SameKinds

/-! ## The policy -/

/-- **Blocks give what they are resolved to, and nothing else.** A block that does not count changes nothing,
wherever it is put in or taken out, and neither does any reordering that leaves the first certificate the
first of them. -/
theorem ofBlocks_eq_iff_resolves :
    (∀ blocks answer, ofBlocks blocks = answer ↔ Resolves blocks answer) ∧
    (∀ front block rest, block.tag ∉ countedTags →
      ofBlocks (front ++ block :: rest) = ofBlocks (front ++ rest)) ∧
    ∀ blocks other, blocks.Perm other →
      (certificateBlocks blocks).head? = (certificateBlocks other).head? →
      ofBlocks blocks = ofBlocks other := by
  refine ⟨?policy, ?insert, ?reorder⟩
  case policy =>
    intro blocks answer
    constructor
    · rintro rfl
      exact resolves_ofBlocks blocks
    · exact ofBlocks_of_resolves
  case insert =>
    intro front block rest foreign
    exact (SameKinds.insert foreign front rest).ofBlocks_eq
  case reorder =>
    intro blocks other same leaf
    exact (SameKinds.of_perm same leaf).ofBlocks_eq

/-- A block of another kind. -/
def revocationBlock : Pem.Block := ⟨"X509 CRL", [0x30, 0x00]⟩

/-- A block that holds a key of the given octet in the form that the tag does not say. -/
def mislabelledBlock (octet : UInt8) : Pem.Block := ⟨rsaPublicKeyTag, (sampleKey octet).encode⟩

/-- A key under the wrong tag is found behind a block of another kind, wherever that stands. With a second
key there is one too many, and with a certificate that cannot be read all are lost. -/
theorem resolved_mislabelled_key :
    ofBlocks [revocationBlock, mislabelledBlock 1] = .ok (.other "Ed25519" (sampleKey 1).encode) ∧
      ofBlocks [revocationBlock, mislabelledBlock 1] = ofBlocks [mislabelledBlock 1] ∧
      ofBlocks [revocationBlock, mislabelledBlock 1] = ofBlocks [mislabelledBlock 1, revocationBlock] ∧
      ofBlocks [mislabelledBlock 1, mislabelledBlock 2] = .error .severalPublicKeys ∧
      ofBlocks [mislabelledBlock 1, mislabelledBlock 2, ⟨certificateTag, []⟩]
        = .error .unknownKeyForm := by
  obtain ⟨policy, insert, reorder⟩ := ofBlocks_eq_iff_resolves
  have foreign : revocationBlock.tag ∉ countedTags := by decide
  have means {octet : UInt8} (small : octet = 1 ∨ octet = 2) :
      Means (mislabelledBlock octet) (.key (.other "Ed25519" (sampleKey octet).encode)) :=
    .key (by show rsaPublicKeyTag ∈ keyTags; decide) (decode?_sampleKey small)
  refine ⟨(policy _ _).mpr ?_, insert [] _ _ foreign, reorder _ _ (.swap _ _ _) rfl,
    (policy _ _).mpr ?_, (policy _ _).mpr ?_⟩
  · refine .single ?_ rfl rfl (means (.inl rfl))
    rw [List.forall_mem_cons, List.forall_mem_singleton]
    exact ⟨(Means.ignored foreign).sound, (means (.inl rfl)).sound⟩
  · refine .several ?_ rfl (show 1 < 2 by decide)
    rw [List.forall_mem_cons, List.forall_mem_singleton]
    exact ⟨(means (.inl rfl)).sound, (means (.inr rfl)).sound⟩
  · have among : (⟨certificateTag, []⟩ : Pem.Block)
        ∈ [mislabelledBlock 1, mislabelledBlock 2, ⟨certificateTag, []⟩] := by simp
    exact .spoiled among (.certificate rfl rfl)

end KeyData

end SealedTransfer
