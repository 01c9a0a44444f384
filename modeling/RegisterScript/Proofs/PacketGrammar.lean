import RegisterScript.Proofs.PacketWords

/-!
# Which streams are sequences of packets

The walk over a stream stops at the first thing that is wrong, and a stream that comes from outside
can be wrong at every word.  This file says which streams are walked to their end, without a walk:
a stream has to fall into *frames*, and a frame is described word by word.

**Bytes and words.**  `readWords_eq_ok_iff`: a stream of whole words is the bytes of exactly one
list of words.

**Entries.**  `Entry.Carries` relates a pair of words to the write in it.  The loop over the entries
reads as many pairs as it is told to, whatever stands behind them (`readEntries_eq_ok_iff`).

**Frames.**  `Frame.WellFormed` is everything that has to be right about the words of one packet,
and `Frame.Gives` the packet that is read from them.  `Gives.read` and `exists_frame_of_read` say
that reading one packet is just that; `Give.readPacketsFrom` and `exists_frames_of_readPacketsFrom`
follow for the walk.

**What is read.**  Packets come at increasing offsets (`offsets_of_readStream`), and their writes
are writes that have names (`named_of_readStream`).
-/

namespace RegisterScript

/-! ## Bytes and words -/

lemma littleEndian_ofLittleEndian (bytes : Bytes) :
    littleEndian bytes.length (ofLittleEndian bytes) = bytes := by
  induction bytes with
  | nil => rfl
  | cons b rest ih =>
      have hb : b.toNat < 256 := b.toNat_lt
      have hlow : UInt8.ofNat (b.toNat + 256 * ofLittleEndian rest) = b := by
        apply UInt8.toNat_inj.mp
        rw [UInt8.toNat_ofNat']
        omega
      have hhigh : (b.toNat + 256 * ofLittleEndian rest) / 256 = ofLittleEndian rest := by omega
      rw [List.length_cons, ofLittleEndian, littleEndian, hlow, hhigh, ih]

lemma ofLittleEndian_lt (bytes : Bytes) : ofLittleEndian bytes < 256 ^ bytes.length := by
  induction bytes with
  | nil => simp [ofLittleEndian]
  | cons b rest ih =>
      have hb : b.toNat < 256 := b.toNat_lt
      rw [ofLittleEndian, List.length_cons, pow_succ]
      omega

/-- Eight bytes are those of the word that they are read as. -/
lemma wordBytes_ofLittleEndian {bytes : Bytes} (h : bytes.length = 8) :
    wordBytes (UInt64.ofNat (ofLittleEndian bytes)) = bytes := by
  have hlt : ofLittleEndian bytes < 2 ^ 64 := by
    have hlt := ofLittleEndian_lt bytes
    rw [h] at hlt
    exact hlt
  rw [wordBytes, UInt64.toNat_ofNat_of_lt' hlt, ← h, littleEndian_ofLittleEndian]

lemma wordsToBytes_wordsFrom (read : List UInt64) {bytes : Bytes} (h : bytes.length % 8 = 0) :
    wordsToBytes (wordsFrom read bytes) = wordsToBytes read.reverse ++ bytes := by
  fun_induction wordsFrom read bytes with
  | case1 read b₀ b₁ b₂ b₃ b₄ b₅ b₆ b₇ rest ih =>
      have hrest : rest.length % 8 = 0 := by
        simp only [List.length_cons] at h
        omega
      rw [ih hrest, List.reverse_cons]
      simp [wordsToBytes, wordBytes_ofLittleEndian]
  | case2 bytes read hshort =>
      -- There are fewer than eight bytes left, and a multiple of eight.
      have hnil : bytes = [] := by
        rcases bytes with _ | ⟨b₀, _ | ⟨b₁, _ | ⟨b₂, _ | ⟨b₃, _ | ⟨b₄, _ | ⟨b₅, _ | ⟨b₆, more⟩⟩⟩⟩⟩⟩⟩
        · rfl
        iterate 6 simp at h
        · cases more with
          | nil => simp at h
          | cons b₇ rest => exact (hshort b₀ b₁ b₂ b₃ b₄ b₅ b₆ b₇ rest rfl).elim
      simp [hnil]

/-- **The words of a stream** are the only ones that it is the bytes of. -/
theorem readWords_eq_ok_iff {bytes : Bytes} {words : List UInt64} :
    readWords bytes = .ok words ↔ wordsToBytes words = bytes := by
  constructor
  · intro h
    rw [readWords] at h
    split_ifs at h with hlength
    rw [← Except.ok.inj h, wordsToBytes_wordsFrom [] hlength]
    simp [wordsToBytes]
  · intro h
    rw [← h, readWords_wordsToBytes]

/-! ## Entries -/

/-- A pair of words behind a tag. -/
structure Entry where
  data : UInt64
  address : UInt64
  deriving DecidableEq, Repr

namespace Entry

/-- The words of an entry, in order. -/
def words (e : Entry) : List UInt64 := [e.data, e.address]

/-- The second word is the address of a register, and the first is read as a write to it. -/
def Carries (e : Entry) (w : Write) : Prop :=
  ∃ r : Register, e.address = r.address.toUInt64 ∧ r.decode e.data = .ok w

lemma length_flatMap_words (entries : List Entry) :
    (entries.flatMap words).length = 2 * entries.length := by
  simp [words, List.length_flatMap, Nat.mul_comm]

/-- Entries carry a list of writes exactly if each of them carries one. -/
lemma exists_carries_iff (entries : List Entry) :
    (∃ ws, List.Forall₂ Carries entries ws) ↔ ∀ e ∈ entries, ∃ w, e.Carries w := by
  induction entries with
  | nil => simp
  | cons e entries ih =>
      rw [List.forall_mem_cons, ← ih]
      simp only [List.forall₂_cons_left_iff]
      constructor
      · rintro ⟨_, w, ws, hw, hws, rfl⟩
        exact ⟨⟨w, hw⟩, ws, hws⟩
      · rintro ⟨⟨w, hw⟩, ws, hws⟩
        exact ⟨w :: ws, w, ws, hw, hws, rfl⟩

end Entry

/-- An address is a whole word: nothing above its low byte is overlooked. -/
lemma Register.ofAddressWord?_eq_some_iff {word : UInt64} {r : Register} :
    Register.ofAddressWord? word = some r ↔ word = r.address.toUInt64 := by
  constructor
  · intro h
    rw [ofAddressWord?] at h
    split_ifs at h with hsmall
    have haddress : r.address = UInt8.ofNat word.toNat := by
      simpa using List.find?_some h
    apply UInt64.toNat_inj.mp
    rw [haddress, UInt8.toNat_toUInt64, UInt8.toNat_ofNat']
    omega
  · rintro rfl
    cases r <;> decide

/-- **The entries behind a tag.**  The loop succeeds exactly if the words start with that many pairs
which carry writes, and the descriptor of each is that of a pair. -/
lemma readEntries_eq_ok_iff {tag : Tag} {offset count index position : Nat} {read ws : List Write}
    {words : List UInt64} :
    readEntries tag offset count index position read words = .ok ws ↔
      ∃ entries new rest, words = entries.flatMap Entry.words ++ rest ∧ entries.length = count ∧
        (∀ i < count, tag.descriptor ((index + i) % tag.regCount) = Tag.addressData) ∧
        List.Forall₂ Entry.Carries entries new ∧ ws = read.reverse ++ new := by
  constructor
  · intro h
    induction count generalizing index position read words with
    | zero =>
        rw [readEntries, Except.ok.injEq] at h
        exact ⟨[], [], words, rfl, rfl, by simp, .nil, by simp [h]⟩
    | succ count ih =>
        rw [readEntries.eq_def] at h
        dsimp only at h
        split_ifs at h with hdescriptor
        split at h
        · rename_i data address rest
          split at h
          · cases h
          · rename_i r hr
            split at h
            · cases h
            · rename_i w hw
              obtain ⟨entries, new, rest', rfl, hcount, hrest, hcarries, rfl⟩ := ih h
              have hcarry : Entry.Carries ⟨data, address⟩ w :=
                ⟨r, Register.ofAddressWord?_eq_some_iff.mp hr, hw⟩
              refine ⟨⟨data, address⟩ :: entries, w :: new, rest', rfl, by simp [hcount], ?_,
                .cons hcarry hcarries, by simp⟩
              intro i hi
              rcases i with _ | i
              · simpa using hdescriptor
              · have hi' := hrest i (by omega)
                rwa [show index + 1 + i = index + (i + 1) by omega] at hi'
        · cases h
  · rintro ⟨entries, new, rest, rfl, rfl, hdescriptors, hcarries, rfl⟩
    induction hcarries generalizing index position read with
    | nil => simp [readEntries]
    | @cons e w entries new hcarry _ ih =>
        obtain ⟨r, haddress, hdecode⟩ := hcarry
        have hr := Register.ofAddressWord?_eq_some_iff.mpr haddress
        have hdescriptor : tag.descriptor (index % tag.regCount) = Tag.addressData :=
          hdescriptors 0 (by simp)
        have hrest : ∀ i < entries.length,
            tag.descriptor ((index + 1 + i) % tag.regCount) = Tag.addressData := by
          intro i hi
          have hi' := hdescriptors (i + 1) (by simp [hi])
          rwa [show index + (i + 1) = index + 1 + i by omega] at hi'
        simp only [List.length_cons, List.flatMap_cons, Entry.words, List.cons_append,
          List.nil_append, readEntries, hdescriptor, ne_eq, not_true_eq_false, if_false, hr,
          hdecode]
        rw [ih hrest, List.reverse_cons, List.append_assoc, List.singleton_append]

/-! ## Tags -/

namespace Tag

lemma regCount_pos (t : Tag) : 0 < t.regCount := by
  rw [regCount]
  split_ifs with h
  · decide
  · have hne : t.nreg.toNat ≠ 0 := fun hzero => h (UInt8.toNat_inj.mp hzero)
    omega

/-- Over all entries the register list is gone through from end to end, if at all. -/
lemma forall_descriptor_iff (t : Tag) :
    (∀ i < t.entryCount, t.descriptor ((0 + i) % t.regCount) = addressData) ↔
      (0 < t.nloop.toNat → ∀ i < t.regCount, t.descriptor i = addressData) := by
  have hpos := t.regCount_pos
  constructor
  · intro h hloops i hi
    have hcount : i < t.entryCount :=
      lt_of_lt_of_le hi (Nat.le_mul_of_pos_left _ hloops)
    simpa [Nat.mod_eq_of_lt hi] using h i hcount
  · intro h i hi
    have hloops : 0 < t.nloop.toNat := by
      by_contra hzero
      rw [entryCount, Nat.eq_zero_of_not_pos hzero, Nat.zero_mul] at hi
      omega
    exact h hloops _ (Nat.mod_lt _ hpos)

end Tag

/-- A word holds a primitive setting unless its lowest three bits are all ones. -/
lemma Prim.exists_decode_iff (word : Nat) : (∃ p, Prim.decode word = .ok p) ↔ word % 8 ≠ 7 := by
  have hfield : (Layout.unpack Register.prim.layout word).getD 0 0 = word % 8 := rfl
  rw [Prim.decode]
  simp only [hfield]
  split_ifs with h
  · simp [h]
  · simp [h]

lemma Tag.decodePrim_eq_ok_iff {t : Tag} {offset : Nat} {prim : Option Prim} :
    t.decodePrim offset = .ok prim ↔
      prim.isSome = t.pre ∧ ∀ p ∈ prim, Prim.decode t.prim.toNat = .ok p := by
  rw [Tag.decodePrim]
  cases hpre : t.pre with
  | false => cases prim <;> simp
  | true =>
      cases hdecode : Prim.decode t.prim.toNat with
      | error cause => cases prim <;> simp
      | ok p => cases prim <;> simp [eq_comm]

/-! ## Frames -/

/-- The words of one packet, taken apart. -/
structure Frame where
  lo : UInt64
  hi : UInt64
  entries : List Entry
  deriving DecidableEq, Repr

namespace Frame

/-- The words of a frame, in order. -/
def words (f : Frame) : List UInt64 := f.lo :: f.hi :: f.entries.flatMap Entry.words

/-- The tag of a frame. -/
def tag (f : Frame) : Tag := Tag.unpack f.lo f.hi

/-- Everything that has to be right about the words of a packet. -/
structure WellFormed (f : Frame) : Prop where
  /-- The data comes in pairs of words. -/
  packed : f.tag.flg = Tag.packed
  /-- The setting in the tag, if there is one, has a topology. -/
  topology : f.tag.pre = true → f.tag.prim.toNat % 8 ≠ 7
  /-- There are as many entries as the tag counts. -/
  counted : f.entries.length = f.tag.nloop.toNat * f.tag.regCount
  /-- The register list names pairs only; if it is not gone through, it may name anything. -/
  described : 0 < f.tag.nloop.toNat → ∀ i < f.tag.regCount, f.tag.descriptor i = Tag.addressData
  /-- Every entry carries a write. -/
  carried : ∀ e ∈ f.entries, ∃ w, e.Carries w

/-- The packet that is read from a frame at a byte offset. -/
structure Gives (f : Frame) (offset : Nat) (p : Packet) : Prop where
  offset : p.offset = offset
  tag : p.tag = f.tag
  hasPrim : p.prim.isSome = f.tag.pre
  prim : ∀ q ∈ p.prim, Prim.decode f.tag.prim.toNat = .ok q
  writes : List.Forall₂ Entry.Carries f.entries p.writes

variable {f : Frame} {offset : Nat} {p : Packet}

lemma length_words (f : Frame) : f.words.length = 2 * (1 + f.entries.length) := by
  rw [words, List.length_cons, List.length_cons, Entry.length_flatMap_words]
  omega

lemma WellFormed.exists_gives (hf : f.WellFormed) (offset : Nat) : ∃ p, f.Gives offset p := by
  obtain ⟨ws, hws⟩ := (Entry.exists_carries_iff f.entries).mpr hf.carried
  cases hpre : f.tag.pre with
  | false => exact ⟨⟨offset, f.tag, none, ws⟩, rfl, rfl, by simp [hpre], by simp, hws⟩
  | true =>
      obtain ⟨q, hq⟩ := (Prim.exists_decode_iff _).mpr (hf.topology hpre)
      exact ⟨⟨offset, f.tag, some q, ws⟩, rfl, rfl, by simp [hpre], by simpa using hq, hws⟩

/-- **One packet is read** from the words of a frame, whatever stands behind them. -/
lemma Gives.read (hf : f.WellFormed) (hp : f.Gives offset p) (rest : List UInt64) :
    Packet.read offset f.tag (f.entries.flatMap Entry.words ++ rest) = .ok p := by
  have hprim : f.tag.decodePrim offset = .ok p.prim :=
    Tag.decodePrim_eq_ok_iff.mpr ⟨hp.hasPrim, hp.prim⟩
  have hentries : readEntries f.tag offset f.tag.entryCount 0 (offset + 16) []
      (f.entries.flatMap Entry.words ++ rest) = .ok p.writes :=
    readEntries_eq_ok_iff.mpr ⟨f.entries, p.writes, rest, rfl, hf.counted,
      f.tag.forall_descriptor_iff.mpr hf.described, hp.writes, rfl⟩
  have hpacket : (⟨offset, f.tag, p.prim, p.writes⟩ : Packet) = p := by
    rw [← hp.offset, ← hp.tag]
  simp [Packet.read, hf.packed, hprim, hentries, hpacket]

/-- Whatever is read as a packet starts with the words of a frame. -/
lemma exists_frame_of_read {lo hi : UInt64} {body : List UInt64}
    (h : Packet.read offset (Tag.unpack lo hi) body = .ok p) :
    ∃ entries rest, body = entries.flatMap Entry.words ++ rest ∧
      (⟨lo, hi, entries⟩ : Frame).WellFormed ∧ (⟨lo, hi, entries⟩ : Frame).Gives offset p := by
  rw [Packet.read] at h
  split_ifs at h with hflg
  split at h
  · cases h
  · rename_i prim hprim
    split at h
    · cases h
    · rename_i writes hwrites
      cases h
      obtain ⟨hpre, hdecode⟩ := Tag.decodePrim_eq_ok_iff.mp hprim
      obtain ⟨entries, new, rest, hbody, hcount, hdescriptors, hcarries, hnew⟩ :=
        readEntries_eq_ok_iff.mp hwrites
      rw [List.reverse_nil, List.nil_append] at hnew
      subst hnew
      refine ⟨entries, rest, hbody, ⟨?_, ?_, hcount, ?_, ?_⟩, ⟨rfl, rfl, hpre, hdecode, hcarries⟩⟩
      · exact not_not.mp hflg
      · intro htrue
        rw [← Prim.exists_decode_iff]
        obtain ⟨q, hq⟩ := Option.isSome_iff_exists.mp (hpre.trans htrue)
        exact ⟨q, hdecode q hq⟩
      · exact (Tag.forall_descriptor_iff _).mp hdescriptors
      · exact (Entry.exists_carries_iff entries).mp ⟨writes, hcarries⟩

/-- The packets that are read from frames in a row, the first of which is at a byte offset. -/
inductive Give : Nat → List Frame → List Packet → Prop where
  | nil (offset : Nat) : Give offset [] []
  | cons {offset : Nat} {f : Frame} {p : Packet} {frames : List Frame} {packets : List Packet}
      (hp : f.Gives offset p) (hrest : Give (offset + 8 * f.words.length) frames packets) :
      Give offset (f :: frames) (p :: packets)

lemma exists_give {frames : List Frame} (h : ∀ f ∈ frames, f.WellFormed) (offset : Nat) :
    ∃ packets, Give offset frames packets := by
  induction frames generalizing offset with
  | nil => exact ⟨[], .nil offset⟩
  | cons f frames ih =>
      obtain ⟨p, hp⟩ := (h f (by simp)).exists_gives offset
      obtain ⟨packets, hpackets⟩ :=
        ih (fun f' hf' => h f' (by simp [hf'])) (offset + 8 * f.words.length)
      exact ⟨p :: packets, .cons hp hpackets⟩

/-- **The walk over frames** reads all their packets. -/
lemma Give.readPacketsFrom {frames : List Frame} {packets : List Packet}
    (h : Give offset frames packets) (hframes : ∀ f ∈ frames, f.WellFormed) (read : List Packet) :
    readPacketsFrom read offset (frames.flatMap words) = .ok (read.reverse ++ packets) := by
  induction h generalizing read with
  | nil offset => simp [RegisterScript.readPacketsFrom]
  | @cons offset f p frames packets hp _ ih =>
      have hf := hframes f (by simp)
      have hread := hp.read hf (frames.flatMap words)
      have hcount : f.entries.length = f.tag.entryCount := hf.counted
      have hoffset : offset + 16 + 16 * f.tag.entryCount = offset + 8 * f.words.length := by
        rw [length_words, hcount]
        omega
      have hdrop : (f.entries.flatMap Entry.words ++ frames.flatMap words).drop
          (2 * f.tag.entryCount) = frames.flatMap words := by
        rw [← hcount, ← Entry.length_flatMap_words, List.drop_left]
      have hrest := ih (fun f' hf' => hframes f' (by simp [hf'])) (p :: read)
      have htag : Tag.unpack f.lo f.hi = f.tag := rfl
      rw [List.flatMap_cons, words, List.cons_append, List.cons_append,
        RegisterScript.readPacketsFrom]
      simp only [htag, hread, hoffset, hdrop, hrest, List.reverse_cons, List.append_assoc,
        List.singleton_append]

/-- Whatever is walked to its end falls into frames. -/
lemma exists_frames_of_readPacketsFrom {read packets : List Packet} {words : List UInt64}
    (h : readPacketsFrom read offset words = .ok packets) :
    ∃ frames new, words = frames.flatMap Frame.words ∧ (∀ f ∈ frames, f.WellFormed) ∧
      Give offset frames new ∧ packets = read.reverse ++ new := by
  fun_induction readPacketsFrom read offset words with
  | case1 read offset =>
      rw [Except.ok.injEq] at h
      exact ⟨[], [], rfl, by simp, .nil offset, by simp [h]⟩
  | case2 => cases h
  | case3 => cases h
  | case4 read offset lo hi body tag packet hread ih =>
      obtain ⟨frames, new, hrest, hframes, hgive, rfl⟩ := ih h
      obtain ⟨entries, rest, rfl, hf, hgives⟩ := exists_frame_of_read hread
      have hcount : entries.length = tag.entryCount := hf.counted
      have hdrop : (entries.flatMap Entry.words ++ rest).drop (2 * tag.entryCount) = rest := by
        rw [← hcount, ← Entry.length_flatMap_words, List.drop_left]
      have hoffset : offset + 16 + 16 * tag.entryCount
          = offset + 8 * (⟨lo, hi, entries⟩ : Frame).words.length := by
        rw [length_words, hcount]
        omega
      rw [hdrop] at hrest
      rw [hoffset] at hgive
      refine ⟨⟨lo, hi, entries⟩ :: frames, packet :: new, ?_, ?_, .cons hgives hgive, by simp⟩
      · rw [hrest, List.flatMap_cons, Frame.words, List.cons_append, List.cons_append]
      · exact List.forall_mem_cons.mpr ⟨hf, hframes⟩

namespace Give

variable {frames : List Frame} {packets : List Packet}

lemma length_eq (h : Give offset frames packets) : packets.length = frames.length := by
  induction h with
  | nil offset => rfl
  | cons _ _ ih => simp [ih]

/-- The packet of a frame comes at the position that the frames before it take up. -/
lemma getElem? {before after : List Frame} (h : Give offset (before ++ f :: after) packets) :
    ∃ p, packets[before.length]? = some p ∧
      f.Gives (offset + 8 * (before.flatMap words).length) p := by
  induction before generalizing offset packets with
  | nil =>
      cases h with
      | cons hp _ => exact ⟨_, rfl, by simpa using hp⟩
  | cons f' before ih =>
      cases h with
      | cons _ hrest =>
          obtain ⟨p, hp, hgives⟩ := ih hrest
          refine ⟨p, by simpa using hp, ?_⟩
          rw [List.flatMap_cons, List.length_append, Nat.mul_add, ← Nat.add_assoc]
          exact hgives

lemma exists_gives_of_mem (h : Give offset frames packets) {p : Packet} (hp : p ∈ packets) :
    ∃ f ∈ frames, f.Gives p.offset p ∧ offset ≤ p.offset := by
  induction h with
  | nil offset => simp at hp
  | @cons offset f q frames packets hq _ ih =>
      rcases List.mem_cons.mp hp with rfl | hp
      · refine ⟨f, by simp, ?_, by rw [hq.offset]⟩
        rw [hq.offset]
        exact hq
      · obtain ⟨f', hf', hgives, hle⟩ := ih hp
        exact ⟨f', by simp [hf'], hgives, by omega⟩

lemma pairwise_offset (h : Give offset frames packets) :
    (packets.map Packet.offset).Pairwise (· < ·) := by
  induction h with
  | nil offset => exact List.Pairwise.nil
  | @cons offset f p frames packets hp hrest ih =>
      refine List.pairwise_cons.mpr ⟨?_, ih⟩
      intro later hlater
      obtain ⟨q, hq, rfl⟩ := List.mem_map.mp hlater
      obtain ⟨-, -, -, hle⟩ := exists_gives_of_mem hrest hq
      rw [length_words] at hle
      rw [hp.offset]
      omega

end Give

end Frame

/-! ## Streams -/

/-- **What is read from a stream.** -/
theorem readStream_eq_ok_iff {bytes : Bytes} {packets : List Packet} :
    readStream bytes = .ok packets ↔
      ∃ frames : List Frame, (∀ f ∈ frames, f.WellFormed) ∧
        wordsToBytes (frames.flatMap Frame.words) = bytes ∧ Frame.Give 0 frames packets := by
  constructor
  · intro h
    cases hwords : readWords bytes with
    | error e => simp [readStream, hwords, bind, Except.bind] at h
    | ok words =>
        simp only [readStream, hwords, bind, Except.bind, readPackets] at h
        obtain ⟨frames, new, rfl, hframes, hgive, rfl⟩ := Frame.exists_frames_of_readPacketsFrom h
        exact ⟨frames, hframes, readWords_eq_ok_iff.mp hwords, by simpa using hgive⟩
  · rintro ⟨frames, hframes, hbytes, hgive⟩
    simp only [readStream, readWords_eq_ok_iff.mpr hbytes, bind, Except.bind, readPackets]
    exact hgive.readPacketsFrom hframes []

/-! ## What is read -/

/-- The topology that is read from a word has a name. -/
lemma Prim.named_of_decode {word : Nat} {p : Prim} (h : Prim.decode word = .ok p) :
    (Write.prim p).Named := by
  have hfield : (Layout.unpack Register.prim.layout word).getD 0 0 = word % 8 := rfl
  simp only [Prim.decode, hfield] at h
  split_ifs at h with hseven
  cases h
  show UInt8.ofNat (word % 8) ≤ 6
  rw [UInt8.le_iff_toNat_le, UInt8.toNat_ofNat']
  show word % 8 % 256 ≤ 6
  omega

/-- What is read from a data word has names. -/
lemma Register.named_of_decode {r : Register} {word : UInt64} {w : Write}
    (h : r.decode word = .ok w) : w.Named := by
  cases r with
  | prim =>
      simp only [Register.decode] at h
      cases hdecode : Prim.decode word.toNat with
      | error cause => simp [hdecode, Except.map] at h
      | ok p =>
          rw [hdecode] at h
          cases h
          exact Prim.named_of_decode hdecode
  | tex0 =>
      simp only [Register.decode] at h
      split_ifs at h with hformat
      cases h
      refine ⟨?_, ?_⟩
      · rw [UInt8.le_iff_toNat_le, UInt8.toNat_ofNat']
        exact le_trans (Nat.mod_le _ _) hformat
      · have hfield : (Layout.unpack Register.tex0.layout word.toNat).getD 6 0 < 4 :=
          Nat.mod_lt _ (by decide)
        rw [UInt8.le_iff_toNat_le, UInt8.toNat_ofNat']
        exact le_trans (Nat.mod_le _ _) (Nat.le_of_lt_succ hfield)
  | _ =>
      cases h
      trivial

lemma Entry.named_of_carries {entries : List Entry} {ws : List Write}
    (h : List.Forall₂ Carries entries ws) : ∀ w ∈ ws, w.Named := by
  induction h with
  | nil => simp
  | cons hcarries _ ih =>
      obtain ⟨r, -, hdecode⟩ := hcarries
      exact List.forall_mem_cons.mpr ⟨Register.named_of_decode hdecode, ih⟩

/-- **The settings and writes of a stream** have names. -/
lemma named_of_readStream {bytes : Bytes} {packets : List Packet}
    (h : readStream bytes = .ok packets) {p : Packet} (hp : p ∈ packets) :
    ∀ w ∈ p.prim.toList.map Write.prim ++ p.writes, w.Named := by
  obtain ⟨frames, -, -, hgive⟩ := readStream_eq_ok_iff.mp h
  obtain ⟨f, -, hgives, -⟩ := hgive.exists_gives_of_mem hp
  intro w hw
  rcases List.mem_append.mp hw with hw | hw
  · obtain ⟨q, hq, rfl⟩ := List.mem_map.mp hw
    exact Prim.named_of_decode (hgives.prim q (Option.mem_toList.mp hq))
  · exact Entry.named_of_carries hgives.writes w hw

/-- Packets come at increasing positions. -/
lemma offsets_of_readStream {bytes : Bytes} {packets : List Packet}
    (h : readStream bytes = .ok packets) : (packets.map Packet.offset).Pairwise (· < ·) := by
  obtain ⟨frames, -, -, hgive⟩ := readStream_eq_ok_iff.mp h
  exact hgive.pairwise_offset

/-- **Which streams are read, and to what.**  Reading succeeds exactly if the stream consists of
whole words and these fall, with nothing left over, into well-formed frames.  Then there is one
packet for each frame, in order, at the position of the frame's first byte, with the frame's tag, a
setting exactly if the tag says so, and the writes of its entries, as many as the tag counts. -/
theorem readStream_frames (bytes : Bytes) :
    ((∃ packets, readStream bytes = .ok packets) ↔
      bytes.length % 8 = 0 ∧ ∃ frames : List Frame, (∀ f ∈ frames, f.WellFormed) ∧
        wordsToBytes (frames.flatMap Frame.words) = bytes) ∧
    ∀ frames : List Frame, (∀ f ∈ frames, f.WellFormed) →
      wordsToBytes (frames.flatMap Frame.words) = bytes →
      ∃ packets : List Packet, readStream bytes = .ok packets ∧ packets.length = frames.length ∧
        ∀ (before : List Frame) (f : Frame) (after : List Frame), frames = before ++ f :: after →
          ∃ p : Packet, packets[before.length]? = some p ∧
            p.offset = 8 * (before.flatMap Frame.words).length ∧ p.tag = f.tag ∧
            p.prim.isSome = f.tag.pre ∧ (∀ q ∈ p.prim, Prim.decode f.tag.prim.toNat = .ok q) ∧
            p.writes.length = f.tag.nloop.toNat * f.tag.regCount ∧
            List.Forall₂ Entry.Carries f.entries p.writes := by
  constructor
  · constructor
    · rintro ⟨packets, h⟩
      obtain ⟨frames, hframes, rfl, -⟩ := readStream_eq_ok_iff.mp h
      refine ⟨?_, frames, hframes, rfl⟩
      rw [length_wordsToBytes]
      exact Nat.mul_mod_right 8 _
    · rintro ⟨-, frames, hframes, hbytes⟩
      obtain ⟨packets, hgive⟩ := Frame.exists_give hframes 0
      exact ⟨packets, readStream_eq_ok_iff.mpr ⟨frames, hframes, hbytes, hgive⟩⟩
  · intro frames hframes hbytes
    obtain ⟨packets, hgive⟩ := Frame.exists_give hframes 0
    refine ⟨packets, readStream_eq_ok_iff.mpr ⟨frames, hframes, hbytes, hgive⟩, hgive.length_eq, ?_⟩
    rintro before f after rfl
    obtain ⟨p, hp, hgives⟩ := hgive.getElem?
    refine ⟨p, hp, by simpa using hgives.offset, hgives.tag, hgives.hasPrim, hgives.prim, ?_,
      hgives.writes⟩
    rw [← hgives.writes.length_eq]
    exact (hframes f (by simp)).counted

/-- A frame with nothing but a setting, whose register list is never looked at, and one whose list
of sixteen registers is given as none. -/
def Frame.sixteen : List Frame :=
  [⟨0x0003400000010000, 0, []⟩, ⟨0x1, 0xEEEEEEEEEEEEEEEE, List.replicate 16 ⟨5, 0x61⟩⟩]

theorem readStream_frames_sixteen :
    (∀ f ∈ Frame.sixteen, f.WellFormed) ∧
      ∃ packets, readStream (wordsToBytes (Frame.sixteen.flatMap Frame.words)) = .ok packets ∧
        packets.map Packet.offset = [0, 16] ∧
        packets.map (fun p => p.prim.isSome) = [true, false] ∧
        packets.map (fun p => p.writes.length) = [0, 16] := by
  have hframes : ∀ f ∈ Frame.sixteen, f.WellFormed := by
    rw [Frame.sixteen, List.forall_mem_cons, List.forall_mem_singleton]
    refine ⟨⟨by decide, by decide, by decide, by decide, by simp⟩,
      ⟨by decide, by decide, by decide, by decide, ?_⟩⟩
    intro e he
    rw [List.eq_of_mem_replicate he]
    exact ⟨.finish 5, .finish, rfl, rfl⟩
  obtain ⟨packets, hread, hlength, hpackets⟩ :=
    (readStream_frames _).2 Frame.sixteen hframes rfl
  refine ⟨hframes, packets, hread, ?_⟩
  obtain ⟨p, hp, hpoffset, -, hpprim, -, hpwrites, -⟩ := hpackets [] _ _ rfl
  obtain ⟨q, hq, hqoffset, -, hqprim, -, hqwrites, -⟩ := hpackets [_] _ _ rfl
  obtain ⟨p', q', rfl⟩ := List.length_eq_two.mp hlength
  cases hp
  cases hq
  simp only [List.map_cons, List.map_nil, hpoffset, hqoffset, hpprim, hqprim, hpwrites, hqwrites]
  decide

end RegisterScript
