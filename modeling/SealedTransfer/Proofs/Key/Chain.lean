/-
# SealedTransfer.Proofs.Key.Chain — which chains a key is made of

A chain makes a key if every certificate and every private key in it can be read, there is a certificate
and not a second private key, and the private key goes with the first certificate. The key is then made of
these two. The later certificates only have to be readable, and where the private key stands does not
matter, nor do blocks of other kinds.
-/
import SealedTransfer.Proofs.Key.Certified
import SealedTransfer.Proofs.Key.Resolution
import SealedTransfer.Proofs.Key.Restored

namespace SealedTransfer

namespace CertifiedKey

open KeyData (certificateBlocks)

/-! ## Links -/

/-- The tags of blocks that are links of a chain. -/
def linkTags : List String := certificateTag :: PrivateKey.tags

/-- What a block is in a chain. -/
inductive Links (block : Pem.Block) : ChainItem → Prop
  | certificate {certificate : Certificate} (tagged : block.tag = certificateTag)
      (read : Certificate.decode? block.contents = some certificate) :
      Links block (.certificate block.contents)
  | privateKey {key : PrivateKey} (tagged : block.tag ∈ PrivateKey.tags)
      (read : PrivateKey.ofBlock block = .ok key) : Links block (.privateKey key)
  | ignored (foreign : block.tag ∉ linkTags) : Links block .ignored

/-- The blocks that hold private keys. -/
def privateKeyBlocks (blocks : List Pem.Block) : List Pem.Block := Pem.tagged PrivateKey.tags blocks

/-- Blocks of which every certificate and every private key can be read, a private key in the form that
its own tag says. -/
structure WellFormed (blocks : List Pem.Block) : Prop where
  certificates : ∀ block ∈ certificateBlocks blocks, ∃ certificate,
    Certificate.decode? block.contents = some certificate
  keys : ∀ block ∈ privateKeyBlocks blocks, ∃ key, PrivateKey.ofBlock block = .ok key

section Links

variable {block : Pem.Block} {blocks : List Pem.Block} {item : ChainItem} {items : List ChainItem}

theorem certificateTag_notMem_tags : certificateTag ∉ PrivateKey.tags := by decide

/-- **A block is read as what it is in the chain.** -/
theorem chainItem_eq_ok_iff : chainItem block = .ok item ↔ Links block item := by
  constructor
  · intro read
    unfold chainItem at read
    split at read
    · rename_i tagged
      obtain ⟨certificate, found, same⟩ := bind_eq_ok.mp read
      cases same
      exact .certificate tagged (Certificate.decode_eq_ok_iff.mp found)
    split at read
    · rename_i tagged
      obtain ⟨key, found, same⟩ := bind_eq_ok.mp read
      cases same
      exact .privateKey tagged found
    · rename_i uncertified unkeyed
      cases read
      exact .ignored (List.not_mem_cons_of_ne_of_not_mem uncertified unkeyed)
  · intro links
    cases links with
    | certificate tagged read =>
      rw [chainItem, if_pos tagged, Certificate.decode_eq_ok_iff.mpr read]
      rfl
    | privateKey tagged read => exact chainItem_privateKey tagged read
    | ignored foreign =>
      rw [chainItem, if_neg (List.ne_of_not_mem_cons foreign),
        if_neg (List.not_mem_of_not_mem_cons foreign)]
      rfl

/-- A certificate's block is a certificate. -/
theorem Links.of_certificateTag (links : Links block item) (tagged : block.tag = certificateTag) :
    item = .certificate block.contents ∧
      ∃ certificate, Certificate.decode? block.contents = some certificate := by
  cases links with
  | certificate same read => exact ⟨rfl, _, read⟩
  | privateKey keyed read => exact absurd (tagged ▸ keyed) certificateTag_notMem_tags
  | ignored foreign => exact absurd tagged (List.ne_of_not_mem_cons foreign)

/-- A private key's block is a private key. -/
theorem Links.of_mem_tags (links : Links block item) (tagged : block.tag ∈ PrivateKey.tags) :
    ∃ key, item = .privateKey key ∧ PrivateKey.ofBlock block = .ok key := by
  cases links with
  | certificate same read => exact absurd (same ▸ tagged) certificateTag_notMem_tags
  | privateKey keyed read => exact ⟨_, rfl, read⟩
  | ignored foreign => exact absurd tagged (List.not_mem_of_not_mem_cons foreign)

/-- The certificates of a chain are what the certificates' blocks contain. -/
theorem certificates_of_links (links : List.Forall₂ Links blocks items) :
    certificates items = (certificateBlocks blocks).map (·.contents) := by
  symm
  rw [← List.forall₂_eq_eq_eq, List.forall₂_map_left_iff]
  refine Pem.forall₂_tagged ?_ ?_ links
  · intro block item links counts
    obtain ⟨rfl, -⟩ := links.of_certificateTag (List.mem_singleton.mp counts)
    exact ⟨_, rfl, rfl⟩
  · intro block item links foreign
    cases links with
    | certificate tagged read => exact absurd (List.mem_singleton.mpr tagged) foreign
    | privateKey | ignored => rfl

/-- The private keys of a chain are those that their blocks hold. -/
theorem privateKeys_of_links (links : List.Forall₂ Links blocks items) :
    (privateKeyBlocks blocks).map PrivateKey.ofBlock = (privateKeys items).map .ok := by
  rw [← List.forall₂_eq_eq_eq, List.forall₂_map_left_iff, List.forall₂_map_right_iff]
  refine Pem.forall₂_tagged ?_ ?_ links
  · intro block item links counts
    obtain ⟨key, rfl, read⟩ := links.of_mem_tags counts
    exact ⟨key, rfl, read⟩
  · intro block item links foreign
    cases links with
    | privateKey tagged read => exact absurd tagged foreign
    | certificate | ignored => rfl

/-- Blocks are well formed if each of them can be read. -/
theorem wellFormed_iff : WellFormed blocks ↔ ∀ block ∈ blocks, ∃ item, Links block item := by
  constructor
  · intro h block among
    by_cases certified : block.tag = certificateTag
    · obtain ⟨certificate, read⟩ :=
        h.certificates block (Pem.mem_tagged.mpr ⟨among, List.mem_singleton.mpr certified⟩)
      exact ⟨_, .certificate certified read⟩
    by_cases keyed : block.tag ∈ PrivateKey.tags
    · obtain ⟨key, read⟩ := h.keys block (Pem.mem_tagged.mpr ⟨among, keyed⟩)
      exact ⟨_, .privateKey keyed read⟩
    · exact ⟨_, .ignored (List.not_mem_cons_of_ne_of_not_mem certified keyed)⟩
  · intro h
    constructor
    case certificates =>
      intro block here
      obtain ⟨among, counts⟩ := Pem.mem_tagged.mp here
      obtain ⟨item, links⟩ := h block among
      exact (links.of_certificateTag (List.mem_singleton.mp counts)).2
    case keys =>
      intro block here
      obtain ⟨among, counts⟩ := Pem.mem_tagged.mp here
      obtain ⟨item, links⟩ := h block among
      obtain ⟨key, -, read⟩ := links.of_mem_tags counts
      exact ⟨key, read⟩

/-- Of well formed blocks the key is made of what the certificates' blocks contain and of the private
keys. -/
theorem WellFormed.exists_ofChain (h : WellFormed blocks) :
    ∃ keys, (privateKeyBlocks blocks).map PrivateKey.ofBlock = keys.map .ok ∧
      ofBlocks blocks = ofChain ((certificateBlocks blocks).map (·.contents)) keys := by
  obtain ⟨items, links⟩ := exists_forall₂_iff.mpr (wellFormed_iff.mp h)
  have read : blocks.mapM chainItem = .ok items :=
    mapM_eq_ok_iff.mpr (links.imp fun _ _ => chainItem_eq_ok_iff.mpr)
  refine ⟨privateKeys items, privateKeys_of_links links, ?_⟩
  rw [ofBlocks, read, ← certificates_of_links links]
  rfl

/-- Blocks that a key is made of are well formed. -/
theorem wellFormed_of_ofBlocks {key : CertifiedKey} (made : ofBlocks blocks = .ok key) :
    WellFormed blocks := by
  obtain ⟨items, read, -⟩ := bind_eq_ok.mp made
  have links : List.Forall₂ Links blocks items :=
    (mapM_eq_ok_iff.mp read).imp fun _ _ => chainItem_eq_ok_iff.mp
  exact wellFormed_iff.mpr (exists_forall₂_iff.mp ⟨items, links⟩)

end Links

/-! ## Keys of chains -/

/-- What a key of a chain is made of: the first certificate, and the private key that the chain has. -/
structure IsMadeOf (key : CertifiedKey) (blocks : List Pem.Block) : Prop where
  leaf : (certificateBlocks blocks).head?.map (·.contents) = some key.encoded
  privateKey : (privateKeyBlocks blocks).map PrivateKey.ofBlock = key.privateKey.toList.map .ok
  coherent : key.IsCoherent

/-- What blocks have to be for a key to be made of them: each can be read, there is one private key at most,
and the first certificate has a key, which is the public half of a private RSA key. -/
structure Acceptable (blocks : List Pem.Block) : Prop where
  wellFormed : WellFormed blocks
  single : (privateKeyBlocks blocks).length ≤ 1
  leaf : ∃ block certificate publicKey, (certificateBlocks blocks).head? = some block ∧
    Certificate.decode? block.contents = some certificate ∧ certificate.publicKey = .ok publicKey ∧
    ∀ source ∈ privateKeyBlocks blocks, ∀ privateKey,
      PrivateKey.ofBlock source = .ok (.rsa privateKey) → publicKey = .rsa privateKey.publicHalf

section Chains

variable {blocks other front rest : List Pem.Block} {block : Pem.Block} {key : CertifiedKey}
  {encoded : Bytes}

/-- A key is made of its own parts, if they belong together. -/
theorem ofParts_of_isCoherent (coherent : key.IsCoherent) :
    ofParts key.encoded key.privateKey = .ok key := by
  obtain ⟨certificate, encoded, publicKey, privateKey⟩ := key
  obtain ⟨read, own, paired⟩ := coherent
  dsimp only at read own paired
  have single : ofCertificate encoded = .ok ⟨certificate, encoded, publicKey, none⟩ := by
    rw [ofCertificate_eq read, own]
    rfl
  cases privateKey with
  | none => exact single
  | some privateKey =>
    have fits : goesWith privateKey publicKey = true := by
      cases privateKey with
      | rsa privateKey => exact decide_eq_true (paired privateKey rfl)
      | other => rfl
    show ofPair encoded privateKey = _
    rw [ofPair, single]
    exact if_pos fits

/-- A key is made of the parts that are given, and they belong together. -/
theorem of_ofParts {privateKey : Option PrivateKey} (made : ofParts encoded privateKey = .ok key) :
    key.encoded = encoded ∧ key.privateKey = privateKey ∧ key.IsCoherent := by
  cases privateKey with
  | none =>
    obtain ⟨whole, held, -⟩ := of_ofCertificate made
    exact ⟨whole, held, isCoherent_of_ofCertificate made⟩
  | some privateKey =>
    obtain ⟨whole, held, -⟩ := of_ofPair made
    exact ⟨whole, held, isCoherent_of_ofPair made⟩

/-- A chain's certificates and private keys make a key if it has the first certificate and the only
private key. -/
theorem ofChain_eq_ok_iff {certificates : List Bytes} {privateKeys : List PrivateKey} :
    ofChain certificates privateKeys = .ok key ↔
      certificates.head? = some key.encoded ∧ privateKeys = key.privateKey.toList ∧
        key.IsCoherent := by
  constructor
  · intro made
    unfold ofChain at made
    split at made
    · cases made
    · cases made
    · rename_i leaf others privateKey
      obtain ⟨whole, held, coherent⟩ :=
        of_ofParts (show ofParts leaf (some privateKey) = .ok key from made)
      exact ⟨by rw [whole, List.head?_cons], by rw [held, Option.toList_some], coherent⟩
    · rename_i leaf others
      obtain ⟨whole, held, coherent⟩ := of_ofParts (show ofParts leaf none = .ok key from made)
      exact ⟨by rw [whole, List.head?_cons], by rw [held, Option.toList_none], coherent⟩
  · rintro ⟨first, rfl, coherent⟩
    obtain ⟨others, rfl⟩ := List.head?_eq_some_iff.mp first
    have made := ofParts_of_isCoherent coherent
    cases held : key.privateKey with
    | none => rwa [held] at made
    | some privateKey => rwa [held] at made

/-- **A key is made of blocks** if they are well formed and it has the parts that they say. -/
theorem ofBlocks_eq_ok_iff : ofBlocks blocks = .ok key ↔ WellFormed blocks ∧ key.IsMadeOf blocks := by
  constructor
  · intro made
    have h := wellFormed_of_ofBlocks made
    obtain ⟨keys, read, chain⟩ := h.exists_ofChain
    obtain ⟨first, rfl, coherent⟩ := ofChain_eq_ok_iff.mp (chain.symm.trans made)
    exact ⟨h, by rwa [List.head?_map] at first, read, coherent⟩
  · rintro ⟨h, leaf, privateKey, coherent⟩
    obtain ⟨keys, read, chain⟩ := h.exists_ofChain
    have only : keys = key.privateKey.toList :=
      List.map_injective_iff.mpr (fun _ _ => Except.ok.inj) (read.symm.trans privateKey)
    exact chain.trans (ofChain_eq_ok_iff.mpr ⟨by rwa [List.head?_map], only, coherent⟩)

/-- The private keys of a chain are those that some block holds. -/
theorem mem_privateKeys_iff {keys : List PrivateKey} {privateKey : PrivateKey}
    (read : (privateKeyBlocks blocks).map PrivateKey.ofBlock = keys.map .ok) :
    privateKey ∈ keys ↔
      ∃ source ∈ privateKeyBlocks blocks, PrivateKey.ofBlock source = .ok privateKey := by
  rw [← List.mem_map, read, List.mem_map_of_injective fun _ _ => Except.ok.inj]

/-- There are as many private keys in a chain as blocks of them. -/
theorem length_privateKeyBlocks {keys : List PrivateKey}
    (read : (privateKeyBlocks blocks).map PrivateKey.ofBlock = keys.map .ok) :
    (privateKeyBlocks blocks).length = keys.length := by
  rw [← List.length_map, read, List.length_map]

/-- **Some key is made of blocks just if they are acceptable.** -/
theorem exists_ofBlocks_iff : (∃ key, ofBlocks blocks = .ok key) ↔ Acceptable blocks := by
  constructor
  · rintro ⟨key, made⟩
    obtain ⟨h, leaf, privateKey, read, own, paired⟩ := ofBlocks_eq_ok_iff.mp made
    obtain ⟨block, first, contents⟩ := Option.map_eq_some_iff.mp leaf
    refine ⟨h, ?single, block, key.certificate, key.publicKey, first, contents ▸ read, own, ?paired⟩
    case single =>
      rw [length_privateKeyBlocks privateKey]
      exact Option.length_toList_le
    case paired =>
      intro source among rsa opened
      have held := (mem_privateKeys_iff privateKey).mpr ⟨source, among, opened⟩
      exact paired rsa (Option.mem_toList.mp held)
  · rintro ⟨h, single, block, certificate, publicKey, first, read, own, paired⟩
    obtain ⟨keys, opened, -⟩ := h.exists_ofChain
    rw [length_privateKeyBlocks opened] at single
    -- the key is put together from the parts; a list of one key at most is its first
    have only : keys = keys.head?.toList := by
      match keys with
      | [] | [_] => rfl
      | _ :: _ :: _ => exact absurd single (by simp)
    refine ⟨⟨certificate, block.contents, publicKey, keys.head?⟩,
      ofBlocks_eq_ok_iff.mpr ⟨h, by rw [first, Option.map_some], only ▸ opened, read, own, ?_⟩⟩
    intro rsa held
    obtain ⟨source, among, kept⟩ := (mem_privateKeys_iff opened).mp (List.mem_of_head? held)
    exact paired source among rsa kept

/-! ## What does not matter -/

/-- The order of the blocks does not matter to the key, if the first certificate stays the first. -/
theorem ofBlocks_of_perm (same : blocks.Perm other)
    (leaf : (certificateBlocks blocks).head? = (certificateBlocks other).head?)
    (made : ofBlocks blocks = .ok key) : ofBlocks other = .ok key := by
  obtain ⟨h, first, privateKey, coherent⟩ := ofBlocks_eq_ok_iff.mp made
  have h' : WellFormed other := by
    rw [wellFormed_iff] at h ⊢
    exact fun block among => h block (same.mem_iff.mpr among)
  have reordered : ((privateKeyBlocks blocks).map PrivateKey.ofBlock).Perm
      ((privateKeyBlocks other).map PrivateKey.ofBlock) :=
    (Pem.tagged_perm same).map _
  -- a list with one entry at most has no other order
  have privateKey' : (privateKeyBlocks other).map PrivateKey.ofBlock
      = key.privateKey.toList.map .ok := by
    rw [privateKey] at reordered
    cases held : key.privateKey with
    | none =>
      rw [held] at reordered
      exact reordered.nil_eq.symm
    | some privateKey =>
      rw [held] at reordered
      exact List.perm_singleton.mp reordered.symm
  exact ofBlocks_eq_ok_iff.mpr ⟨h', leaf ▸ first, privateKey', coherent⟩

/-- A block that makes no difference behind others: it is no link, or one more certificate. -/
inductive Idle (front : List Pem.Block) (block : Pem.Block) : Prop
  | foreign (foreign : block.tag ∉ linkTags)
  | later {certificate : Certificate} (leaf : certificateBlocks front ≠ [])
      (tagged : block.tag = certificateTag)
      (read : Certificate.decode? block.contents = some certificate)

/-- Only the first certificate matters to the key. -/
theorem ofChain_cons (leaf : Bytes) (others others' : List Bytes) (keys : List PrivateKey) :
    ofChain (leaf :: others) keys = ofChain (leaf :: others') keys := by
  match keys with
  | [] | [_] | _ :: _ :: _ => rfl

/-- What an idle block is makes no difference behind what the others are. -/
theorem Idle.exists_item (idle : Idle front block) :
    ∃ item, chainItem block = .ok item ∧ ∀ before after : List ChainItem,
      front.mapM chainItem = .ok before →
      ofChain (certificates (before ++ item :: after)) (privateKeys (before ++ item :: after))
        = ofChain (certificates (before ++ after)) (privateKeys (before ++ after)) := by
  cases idle with
  | foreign foreign =>
    refine ⟨.ignored, chainItem_eq_ok_iff.mpr (.ignored foreign), fun before after _ => ?_⟩
    simp only [certificates, privateKeys, List.filterMap_append, List.filterMap_cons]
  | later leaf tagged read =>
    refine ⟨_, chainItem_eq_ok_iff.mpr (.certificate tagged read), fun before after first => ?_⟩
    have links : List.Forall₂ Links front before :=
      (mapM_eq_ok_iff.mp first).imp fun _ _ => chainItem_eq_ok_iff.mp
    obtain ⟨encoded, others, certified⟩ : ∃ encoded others, certificates before = encoded :: others := by
      rw [← List.ne_nil_iff_exists_cons, certificates_of_links links]
      exact fun none => leaf (List.map_eq_nil_iff.mp none)
    have split (items : List ChainItem) :
        certificates (before ++ items) = encoded :: (others ++ certificates items) := by
      rw [certificates, List.filterMap_append, ← certificates, certified]
      rfl
    have keys : privateKeys (before ++ .certificate block.contents :: after)
        = privateKeys (before ++ after) := by
      simp only [privateKeys, List.filterMap_append, List.filterMap_cons]
    rw [split, split, keys]
    exact ofChain_cons _ _ _ _

/-- **An idle block makes no difference**, also to the fault that there is. -/
theorem Idle.ofBlocks_insert (idle : Idle front block) (rest : List Pem.Block) :
    ofBlocks (front ++ block :: rest) = ofBlocks (front ++ rest) := by
  obtain ⟨item, read, same⟩ := idle.exists_item
  simp only [ofBlocks, List.mapM_append, List.mapM_cons, read]
  cases first : front.mapM chainItem with
  | error fault => rfl
  | ok before =>
    cases rest.mapM chainItem with
    | error fault => rfl
    | ok after => exact same before after first

/-! ## Faults -/

/-- Without a certificate there is no key, whatever private keys there are. -/
theorem WellFormed.ofBlocks_of_uncertified (h : WellFormed blocks)
    (uncertified : certificateBlocks blocks = []) : ofBlocks blocks = .error .noCertificate := by
  obtain ⟨keys, -, chain⟩ := h.exists_ofChain
  rw [chain, uncertified]
  rfl

/-- With more private keys than one it is not told which is meant. -/
theorem WellFormed.ofBlocks_of_several (h : WellFormed blocks)
    (certified : certificateBlocks blocks ≠ []) (several : 1 < (privateKeyBlocks blocks).length) :
    ofBlocks blocks = .error .severalPrivateKeys := by
  obtain ⟨keys, opened, chain⟩ := h.exists_ofChain
  rw [length_privateKeyBlocks opened] at several
  obtain ⟨block, others, whole⟩ := List.exists_cons_of_ne_nil certified
  rw [chain, whole, List.map_cons]
  match keys with
  | _ :: _ :: _ => rfl

end Chains

/-! ## The policy -/

/-- **A key is made of just the acceptable chains**, and of the first certificate and the private key in
them. The order does not matter as long as that certificate stays the first, and idle blocks do not
matter at all. Of well formed blocks, those without a certificate are told to have none, and those with a
certificate and several private keys are told to have too many. -/
theorem makes_key_of_acceptable_chains :
    (∀ data blocks, Pem.blocks? data = some blocks → ofStored data = ofBlocks blocks) ∧
    (∀ blocks, (∃ key, ofBlocks blocks = .ok key) ↔ Acceptable blocks) ∧
    (∀ blocks key, ofBlocks blocks = .ok key → key.IsMadeOf blocks) ∧
    (∀ blocks other key, blocks.Perm other →
      (certificateBlocks blocks).head? = (certificateBlocks other).head? →
      ofBlocks blocks = .ok key → ofBlocks other = .ok key) ∧
    (∀ front block rest, Idle front block →
      ofBlocks (front ++ block :: rest) = ofBlocks (front ++ rest)) ∧
    ∀ blocks, WellFormed blocks →
      (certificateBlocks blocks = [] → ofBlocks blocks = .error .noCertificate) ∧
      (certificateBlocks blocks ≠ [] → 1 < (privateKeyBlocks blocks).length →
        ofBlocks blocks = .error .severalPrivateKeys) := by
  refine ⟨?data, fun _ => exists_ofBlocks_iff, ?parts, ?order, ?insert, ?faults⟩
  case data =>
    intro data blocks found
    rw [ofStored, found]
  case parts =>
    intro blocks key made
    exact (ofBlocks_eq_ok_iff.mp made).2
  case order =>
    intro blocks other key same leaf made
    exact ofBlocks_of_perm same leaf made
  case insert =>
    intro front block rest idle
    exact idle.ofBlocks_insert rest
  case faults =>
    intro blocks h
    exact ⟨h.ofBlocks_of_uncertified, h.ofBlocks_of_several⟩

/-- The block of a certificate. -/
def leafBlock : Pem.Block := ⟨certificateTag, AnyKey.samplePairCertificate⟩

/-- The block of another certificate. -/
def laterBlock : Pem.Block := ⟨certificateTag, KeyData.sampleCertificate (KeyData.sampleKey 1) []⟩

/-- A pair is made of its two blocks, the private key before the certificate or after it, and with blocks
between that do not matter. The private key alone makes none, and neither does the same one twice. -/
theorem makes_key_of_sample_chains :
    ∃ (source : Pem.Block) (key : CertifiedKey),
      PrivateKey.ofBlock source = .ok (.rsa AnyKey.samplePrivateKey) ∧
      ofBlocks [source, leafBlock] = .ok key ∧ key.IsMadeOf [source, leafBlock] ∧
      ofStored (source.encode ++ ([0x0A] ++ leafBlock.encode)) = .ok key ∧
      ofBlocks [leafBlock, source] = .ok key ∧
      ofBlocks [leafBlock, laterBlock, KeyData.revocationBlock, source] = .ok key ∧
      ofBlocks [source, source] = .error .noCertificate ∧
      ofBlocks [source, leafBlock, source] = .error .severalPrivateKeys := by
  obtain ⟨stored, accepts, parts, order, insert, faults⟩ := makes_key_of_acceptable_chains
  obtain ⟨octets, -, opened⟩ : ∃ octets, AnyKey.samplePrivateKey.encode? = some octets ∧
      Rsa.PrivateKey.decode? octets = some AnyKey.samplePrivateKey := by
    rw [← Option.bind_eq_some_iff]
    decide +kernel
  let source : Pem.Block := ⟨PrivateKey.rsaTag, octets⟩
  have read : PrivateKey.ofBlock source = .ok (.rsa AnyKey.samplePrivateKey) := by
    rw [PrivateKey.ofBlock, if_pos rfl, opened]
  have tagged : source.tag ∈ PrivateKey.tags := by
    show PrivateKey.rsaTag ∈ PrivateKey.tags
    decide
  have keyed : (Certificate.decode? leafBlock.contents).map (·.subjectKey)
      = some (PublicKey.subjectKey AnyKey.samplePrivateKey.publicHalf) := by
    decide +kernel
  obtain ⟨certificate, found, own⟩ :=
    Certificate.exists_of_subjectKey keyed (PublicKey.decode?_encode_rsa (by decide))
  have held : Links source (.privateKey (.rsa AnyKey.samplePrivateKey)) := .privateKey tagged read
  have leaf : Links leafBlock (.certificate leafBlock.contents) := .certificate rfl found
  have acceptable : Acceptable [source, leafBlock] := by
    refine ⟨wellFormed_iff.mpr ?_, le_refl 1, leafBlock, certificate, _, rfl, found, own, ?_⟩
    · rw [List.forall_mem_cons, List.forall_mem_singleton]
      exact ⟨⟨_, held⟩, _, leaf⟩
    · intro other among rsa same
      rw [List.mem_singleton.mp among, read] at same
      cases same
      rfl
  obtain ⟨key, made⟩ := (accepts _).mpr acceptable
  have swapped : ofBlocks [leafBlock, source] = .ok key := order _ _ key (.swap _ _ _) rfl made
  have later : (Certificate.decode? laterBlock.contents).isSome = true := by decide +kernel
  obtain ⟨other, further⟩ := Option.isSome_iff_exists.mp later
  have longer : ofBlocks [leafBlock, laterBlock, KeyData.revocationBlock, source] = .ok key := by
    have foreign : KeyData.revocationBlock.tag ∉ linkTags := by decide
    have first := insert [leafBlock] laterBlock [KeyData.revocationBlock, source]
      (.later (List.cons_ne_nil _ _) rfl further)
    have second := insert [leafBlock] KeyData.revocationBlock [source] (.foreign foreign)
    exact first.trans (second.trans swapped)
  have text : Pem.blocks? (source.encode ++ ([0x0A] ++ leafBlock.encode)) = some [source, leafBlock] :=
    Pem.blocks?_encode_gap (PrivateKey.isTag_of_mem_tags _ tagged)
      (List.forall_mem_singleton.mpr rfl) isTag_certificateTag
  refine ⟨source, key, read, made, parts _ key made, (stored _ _ text).trans made, swapped, longer,
    (faults _ ?_).1 rfl, (faults _ ?_).2 (List.cons_ne_nil _ _) (show 1 < 2 by decide)⟩
  · rw [wellFormed_iff, List.forall_mem_cons, List.forall_mem_singleton]
    exact ⟨⟨_, held⟩, _, held⟩
  · rw [wellFormed_iff, List.forall_mem_cons, List.forall_mem_cons, List.forall_mem_singleton]
    exact ⟨⟨_, held⟩, ⟨_, leaf⟩, _, held⟩

end CertifiedKey

end SealedTransfer
