import SshTunnel.Proofs.KnownHosts.Hashed
import SshTunnel.Proofs.KnownHosts.Written

/-!
# A store whose hosts are hashed

The host of a pin can be hashed where it stands in the clear. A name in the clear is compared
letter case aside, the code of a hashed one is that of one spelling. A store with the host hashed
gives the verdicts of the store with the host in the clear on this spelling of it, and on every
spelling at another port that can be written.
-/

namespace SshTunnel.KnownHosts

/-! ## Names of different hosts -/

/-- Names without brackets are written alike only for one host at one port. -/
theorem hostName_inj {host host' : Text} {port port' : Int} (hopen : '[' ∉ host)
    (hclose : ']' ∉ host) (hopen' : '[' ∉ host') (hclose' : ']' ∉ host')
    (h : hostName host port = hostName host' port') : host = host' ∧ port = port' := by
  by_cases hdefault : port = defaultPort
  · subst hdefault
    by_cases hdefault' : port' = defaultPort
    · subst hdefault'
      exact ⟨h, rfl⟩
    · rw [hostName_default, hostName_of_ne_default hdefault'] at h
      exact absurd (by simp [h]) hopen
  · by_cases hdefault' : port' = defaultPort
    · subst hdefault'
      rw [hostName_default, hostName_of_ne_default hdefault] at h
      exact absurd (by simp [← h]) hopen'
    · rw [hostName_of_ne_default hdefault, hostName_of_ne_default hdefault'] at h
      -- The hosts end with the first closing bracket.
      obtain ⟨htake, hdrop⟩ := takeWhile_dropWhile_of_not_mem (':' :: Text.ofInt port) hclose
      obtain ⟨htake', hdrop'⟩ :=
        takeWhile_dropWhile_of_not_mem (':' :: Text.ofInt port') hclose'
      rw [(List.cons.inj h).2] at htake hdrop
      refine ⟨htake.symm.trans htake', ?_⟩
      apply Text.ofInt_injective
      simpa using hdrop.symm.trans hdrop'

/-! ## Stores that are read alike -/

/-- Two patterns say the same about a host: both keep it from an entry or both add it. -/
def ReadsAlike (name : Text) (q : Int) (pattern pattern' : Text) : Prop :=
  (HostConfig.negated? pattern).isSome = (HostConfig.negated? pattern').isSome ∧
    patternCovers name q (bare pattern) = patternCovers name q (bare pattern')

/-- What an entry says but for its hosts and its place. -/
def Entry.keyPart (e : Entry) : Entry := { e with hosts := [], line := 0 }

variable {name : Text} {q : Int} {key : PublicKey}

theorem listCovers_congr {patterns patterns' : List Text}
    (h : List.Forall₂ (ReadsAlike name q) patterns patterns') :
    listCovers name q patterns = listCovers name q patterns' := by
  have hsearch : ∀ found,
      searchPatterns name q found patterns = searchPatterns name q found patterns' := by
    induction h with
    | nil => exact fun found => rfl
    | cons hfirst _ ih =>
        intro found
        rw [searchPatterns_cons, searchPatterns_cons, hfirst.1, hfirst.2]
        simp only [ih]
  exact hsearch false

/-- A verdict rests on what the entries say but for their hosts. -/
theorem judge_keyPart (entries covered : List Entry) :
    judge (entries.map Entry.keyPart) (covered.map Entry.keyPart) key =
      judge entries covered key := by
  simp only [judge, List.any_map, List.isEmpty_map]
  rfl

/-- Two entries with hosts that cover a host alike, and with the same key and marker. -/
structure EntriesAlike (name : Text) (q : Int) (e e' : Entry) : Prop where
  keyPart : e.keyPart = e'.keyPart
  covers : listCovers name q e.hosts = listCovers name q e'.hosts

theorem covering_keyPart {entries entries' : List Entry}
    (h : List.Forall₂ (EntriesAlike name q) entries entries') :
    (covering name q entries).map (List.map Entry.keyPart) =
      (covering name q entries').map (List.map Entry.keyPart) := by
  induction h with
  | nil => rfl
  | @cons e e' more more' hfirst _ ih =>
      have hmarker : e.marker = e'.marker := (congrArg Entry.marker hfirst.keyPart :)
      by_cases hcert : e.marker = .certAuthority
      · rw [covering, covering, if_pos hcert, if_pos (hmarker ▸ hcert)]
        exact ih
      · rw [covering, covering, if_neg hcert, if_neg (hmarker ▸ hcert), hfirst.covers]
        cases listCovers name q e'.hosts with
        | error e => rfl
        | ok hit =>
            -- Taking the hosts off commutes with adding an entry that covers the host.
            have hparts : ∀ (first : Entry) (rest : Except Text.Numeral.TooLong (List Entry)),
                (rest.map fun rest => if hit then first :: rest else rest).map
                    (List.map Entry.keyPart) =
                  (rest.map (List.map Entry.keyPart)).map fun parts =>
                    if hit then first.keyPart :: parts else parts := by
              intro first rest
              cases rest <;> cases hit <;> rfl
            calc ((covering name q more).map fun rest => if hit then e :: rest else rest).map
                  (List.map Entry.keyPart)
                = ((covering name q more).map (List.map Entry.keyPart)).map fun parts =>
                    if hit then e.keyPart :: parts else parts := hparts e _
              _ = ((covering name q more').map (List.map Entry.keyPart)).map fun parts =>
                    if hit then e'.keyPart :: parts else parts := by rw [ih, hfirst.keyPart]
              _ = ((covering name q more').map fun rest => if hit then e' :: rest else rest).map
                    (List.map Entry.keyPart) := (hparts e' _).symm

theorem check_congr {store store' : KnownHosts}
    (h : List.Forall₂ (EntriesAlike name q) store.entries store'.entries) :
    store.check name q key = store'.check name q key := by
  have hentries : store.entries.map Entry.keyPart = store'.entries.map Entry.keyPart := by
    rw [← List.forall₂_eq_eq_eq, List.forall₂_map_left_iff, List.forall₂_map_right_iff]
    exact h.imp fun _ _ halike => halike.keyPart
  have hcheck : ∀ s : KnownHosts, s.check name q key =
      ((covering name q s.entries).map (List.map Entry.keyPart)).map
        fun covered => judge (s.entries.map Entry.keyPart) covered key := by
    intro s
    rw [check]
    cases covering name q s.entries with
    | error e => rfl
    | ok covered => simp only [Except.map, judge_keyPart]
  rw [hcheck store, hcheck store', hentries, covering_keyPart h]

/-! ## The host of a pin in the clear and hashed -/

namespace Pin

variable (pin : Pin) (salt : Bytes)

/-- The name of the pin's host and port, hashed under a salt. -/
def hashed : Text := hashedText salt pin.name

/-- A pattern of a store, and the one in its place when names of the pin are hashed. -/
inductive HashesTo : Text → Text → Prop where
  | kept (pattern : Text) : HashesTo pattern pattern
  | name : HashesTo pin.name (pin.hashed salt)
  | negated : HashesTo ('!' :: pin.name) ('!' :: pin.hashed salt)

/-- An entry, and the one in its place when names of the pin are hashed. -/
structure EntryHashesTo (e e' : Entry) : Prop where
  keyPart : e.keyPart = e'.keyPart
  hosts : List.Forall₂ (pin.HashesTo salt) e.hosts e'.hosts

/-- A store, and one that says the same but has hashed names of the pin. -/
def StoreHashesTo (store store' : KnownHosts) : Prop :=
  List.Forall₂ (pin.EntryHashesTo salt) store.entries store'.entries

variable {pin salt}

theorem notMem_bracket (h : Text.lower name = Text.lower pin.host) :
    '[' ∉ name ∧ ']' ∉ name :=
  ⟨fun hmem => pin.host_not_mem (by decide)
      (Text.mem_of_lower_eq h (by decide +kernel) (by decide) hmem),
    fun hmem => pin.host_not_mem (by decide)
      (Text.mem_of_lower_eq h (by decide +kernel) (by decide) hmem)⟩

theorem hostName_eq_name_iff (h : Text.lower name = Text.lower pin.host) :
    hostName name q = pin.name ↔ name = pin.host ∧ q = pin.port := by
  constructor
  · obtain ⟨hopen, hclose⟩ := notMem_bracket h
    exact hostName_inj hopen hclose (pin.host_not_mem (by decide)) (pin.host_not_mem (by decide))
  · rintro ⟨rfl, rfl⟩
    rfl

/-- A spelling of the host is covered in the clear at the port of the pin. -/
theorem patternCovers_name (h : Text.lower name = Text.lower pin.host) :
    patternCovers name q pin.name = .ok (q = pin.port) := by
  obtain ⟨hit, hread, hiff⟩ := @patternCovers_ok name q pin.name
    ⟨pin.shortPort, fun hhash => absurd hhash pin.not_hashed⟩
  have hport : hit = decide (q = pin.port) := by
    rw [Bool.eq_iff_iff, hiff, pin.covers_iff, IsFor, and_iff_right h.symm, decide_eq_true_iff]
    exact eq_comm
  rw [hread, hport]

/-- Without a collision the spelling that was hashed is covered, and no other one. -/
theorem patternCovers_hashed (h : Text.lower name = Text.lower pin.host)
    (hport : Text.Numeral.isWritable q = true)
    (hcollision : hostCode salt (hostName name q) = hostCode salt pin.name →
      hostName name q = pin.name) :
    patternCovers name q (pin.hashed salt) = .ok (name = pin.host ∧ q = pin.port) := by
  have hcode : hostCode salt (hostName name q) = hostCode salt pin.name ↔
      name = pin.host ∧ q = pin.port := by
    rw [← hostName_eq_name_iff h]
    exact ⟨hcollision, fun hsame => by rw [hsame]⟩
  rw [hashed, patternCovers_hashedText, hostText_of_isWritable hport]
  exact congrArg _ (decide_eq_decide.mpr hcode)

/-- At a port that cannot be written there is no answer. -/
theorem patternCovers_hashed_unwritable (pin : Pin) (salt : Bytes) (name : Text)
    (hport : Text.Numeral.isWritable q = false) :
    patternCovers name q (pin.hashed salt) = .error .written :=
  patternCovers_hashed_error name hport (isHashed_hashedText salt pin.name)

theorem negated?_hashed : HostConfig.negated? (pin.hashed salt) = none :=
  (negated?_eq_none_iff _).mpr (by simp [hashed, hashedText])

theorem negated?_name : HostConfig.negated? pin.name = none :=
  (negated?_eq_none_iff _).mpr (pin.head?_name_ne (by decide))

/-- Patterns are read alike when the name and the hashed name cover the host alike. -/
theorem HashesTo.readsAlike
    (h : patternCovers name q (pin.hashed salt) = patternCovers name q pin.name)
    {pattern pattern' : Text} (hhashes : pin.HashesTo salt pattern pattern') :
    ReadsAlike name q pattern pattern' := by
  cases hhashes with
  | kept => exact ⟨rfl, rfl⟩
  | name =>
      rw [ReadsAlike, bare, bare, negated?_name, negated?_hashed]
      exact ⟨rfl, h.symm⟩
  | negated => exact ⟨rfl, h.symm⟩

theorem StoreHashesTo.check_eq
    (h : patternCovers name q (pin.hashed salt) = patternCovers name q pin.name)
    {store store' : KnownHosts} (hstore : pin.StoreHashesTo salt store store') :
    store'.check name q key = store.check name q key := by
  refine (check_congr (hstore.imp fun e e' hhashes => ⟨hhashes.keyPart, ?_⟩)).symm
  exact listCovers_congr (hhashes.hosts.imp fun _ _ hpattern => hpattern.readsAlike h)

/-- A store with one pattern for the key of the pin. -/
def lone (pin : Pin) (pattern : Text) : KnownHosts :=
  ⟨[⟨[pattern], pin.key.algorithm, pin.key.blob, .none, 1⟩], none⟩

/-- It trusts the key on the hosts that the pattern covers, and knows no other one. -/
theorem check_lone (pin : Pin) {pattern : Text}
    (hpositive : HostConfig.negated? pattern = none) (name : Text) (q : Int) :
    (pin.lone pattern).check name q pin.key =
      (patternCovers name q pattern).map fun hit => if hit then .trusted else .unknown := by
  cases hread : patternCovers name q pattern with
  | error e =>
      simp [check, lone, covering, listCovers, searchPatterns, hpositive, hread, Except.bind,
        Except.map]
  | ok hit =>
      cases hit <;>
        simp [check, lone, covering, listCovers, searchPatterns, hpositive, hread, judge,
          Entry.hasKey, Except.bind, Except.map]

/-- The verdicts of two such stores agree only where their patterns do. -/
theorem lone_injective {covers covers' : Except Text.Numeral.TooLong Bool}
    (h : (covers.map fun hit => if hit then Verdict.trusted else .unknown) =
      covers'.map fun hit => if hit then Verdict.trusted else .unknown) : covers = covers' := by
  have hhit : ∀ hit hit' : Bool, (if hit then Verdict.trusted else .unknown) =
      (if hit' then Verdict.trusted else .unknown) → hit = hit' := by decide
  cases covers with
  | error e => cases covers' with
    | error e' => exact congrArg _ (Except.error.inj h)
    | ok hit' => cases h
  | ok hit => cases covers' with
    | error e' => cases h
    | ok hit' => exact congrArg _ (hhit hit hit' (Except.ok.inj h))

theorem storeHashesTo_lone (pin : Pin) (salt : Bytes) :
    pin.StoreHashesTo salt (pin.lone pin.name) (pin.lone (pin.hashed salt)) :=
  .cons ⟨rfl, .cons .name .nil⟩ .nil

/-- A spelling of the host is covered alike by the name and the hashed name, and stores have the
same verdicts on it with the one and the other, exactly when it is the spelling that was hashed
or the port is not that of the pin, and the port can be written: a hashed name is compared with
its text. -/
theorem hashing_keeps_iff (pin : Pin) (salt : Bytes) (name : Text) (q : Int)
    (hname : Text.lower name = Text.lower pin.host)
    (hcollision : hostCode salt (hostName name q) = hostCode salt pin.name →
      hostName name q = pin.name) :
    (patternCovers name q (pin.hashed salt) = patternCovers name q pin.name ↔
      Text.Numeral.isWritable q = true ∧ (q = pin.port → name = pin.host)) ∧
    ((∀ store store', pin.StoreHashesTo salt store store' → ∀ key,
        store'.check name q key = store.check name q key) ↔
      Text.Numeral.isWritable q = true ∧ (q = pin.port → name = pin.host)) := by
  have hclear := patternCovers_name (q := q) hname
  have hpatterns : patternCovers name q (pin.hashed salt) = patternCovers name q pin.name ↔
      Text.Numeral.isWritable q = true ∧ (q = pin.port → name = pin.host) := by
    cases hport : Text.Numeral.isWritable q with
    | true =>
        rw [hclear, patternCovers_hashed hname hport hcollision, Except.ok.injEq,
          decide_eq_decide]
        tauto
    | false => simp [hclear, pin.patternCovers_hashed_unwritable salt name hport]
  refine ⟨hpatterns, fun hstores => ?_, fun hspelling store store' hstore key => ?_⟩
  · have hlone := hstores _ _ (pin.storeHashesTo_lone salt) pin.key
    rw [pin.check_lone negated?_name, pin.check_lone negated?_hashed] at hlone
    exact hpatterns.mp (lone_injective hlone)
  · exact hstore.check_eq (hpatterns.mpr hspelling)

/-- At the port of the pin another spelling is trusted in the clear and unknown when hashed. -/
theorem hashing_losesSpelling :
    Text.lower "DB".toList = Text.lower defaultPin.host ∧
    patternCovers "DB".toList 22 defaultPin.name = .ok true ∧
    patternCovers "DB".toList 22 (defaultPin.hashed [1, 2, 3, 4]) = .ok false ∧
    defaultPin.StoreHashesTo [1, 2, 3, 4] (defaultPin.lone defaultPin.name)
      (defaultPin.lone (defaultPin.hashed [1, 2, 3, 4])) ∧
    (defaultPin.lone defaultPin.name).check "DB".toList 22 defaultPin.key = .ok .trusted ∧
    (defaultPin.lone (defaultPin.hashed [1, 2, 3, 4])).check "DB".toList 22 defaultPin.key =
      .ok .unknown := by
  have hclear : patternCovers "DB".toList 22 defaultPin.name = .ok true := by decide
  have hhashed : patternCovers "DB".toList 22 (defaultPin.hashed [1, 2, 3, 4]) = .ok false := by
    decide +kernel
  refine ⟨by decide, hclear, hhashed, storeHashesTo_lone _ _, ?_, ?_⟩
  · rw [check_lone _ negated?_name, hclear]
    rfl
  · rw [check_lone _ negated?_hashed, hhashed]
    rfl

/-- The spelling that was hashed keeps its verdicts, and so does another one at another port. -/
theorem hashing_keepsSpelling :
    (∀ store store', otherPin.StoreHashesTo [1, 2, 3, 4] store store' → ∀ key,
      store'.check "Db".toList 2222 key = store.check "Db".toList 2222 key) ∧
    (∀ store store', otherPin.StoreHashesTo [1, 2, 3, 4] store store' → ∀ key,
      store'.check "dB".toList 22 key = store.check "dB".toList 22 key) := by
  have hcode : hostCode [1, 2, 3, 4] (hostName "dB".toList 22) ≠
      hostCode [1, 2, 3, 4] otherPin.name := by decide +kernel
  constructor
  · exact (hashing_keeps_iff otherPin.toPin [1, 2, 3, 4] "Db".toList 2222 rfl
      fun _ => rfl).2.mpr ⟨by decide, fun _ => rfl⟩
  · exact (hashing_keeps_iff otherPin.toPin [1, 2, 3, 4] "dB".toList 22 (by decide)
      fun hsame => absurd hsame hcode).2.mpr ⟨by decide, fun hport => absurd hport (by decide)⟩

end Pin

end SshTunnel.KnownHosts
