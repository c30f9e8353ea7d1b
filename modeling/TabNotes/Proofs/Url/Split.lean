import TabNotes.Proofs.Number.Digits
import TabNotes.Proofs.Text.LowerCase
import TabNotes.Proofs.Text.Search
import TabNotes.Proofs.Text.Surrogates
import TabNotes.Url.Split

/-! # Hosts and ports of split URLs

`Split.IsSound` is what every split URL satisfies (`Split.isSound_of_of?_eq_some`): no delimiter is
left in its host, the host is in lower case and the port in range.  `Split.of?_bare` says how a URL
that consists of a scheme, a host and a port is split. -/

namespace TabNotes.Url

open TabNotes.Text TabNotes.Number

variable {cs ds url scheme place : List Char} {c : Char} {n : Nat} {s : Split}

/-! ### Characters -/

/-- A character that a host may have. -/
def IsHostCharacter (c : Char) : Prop :=
  endsAuthority c = false ∧ c ≠ '@' ∧ (c != '\t' && c != '\r' && c != '\n') = true ∧
    disguisedDelimiters.contains c.toNat = false

theorem isMadeByLowering_of_mem_disguisedDelimiters (h : n ∈ disguisedDelimiters) :
    isMadeByLowering n = false := by
  have hall : (disguisedDelimiters.all (!isMadeByLowering ·)) = true := by decide +kernel
  simpa using List.all_eq_true.mp hall n h

/-- Lower case brings no character into a host that hosts may not have. -/
theorem isMadeByLowering_of_not_isHostCharacter (h : ¬ IsHostCharacter c) :
    isMadeByLowering c.toNat = false := by
  have hdelimiters : (['/', '?', '#', '@', '\t', '\r', '\n'].all
      (!isMadeByLowering ·.toNat)) = true := by decide +kernel
  by_cases hmem : c ∈ ['/', '?', '#', '@', '\t', '\r', '\n']
  · simpa using List.all_eq_true.mp hdelimiters c hmem
  · refine isMadeByLowering_of_mem_disguisedDelimiters ?_
    by_contra hdisguised
    refine h ?_
    simp only [List.mem_cons, List.not_mem_nil, or_false, not_or] at hmem
    simp_all [IsHostCharacter, endsAuthority]

theorem mem_of_mem_countedCharacters (h : c ∈ countedCharacters cs) :
    (c != '\t' && c != '\r' && c != '\n') = true :=
  (List.mem_filter.mp h).2

theorem takeScheme_subset (cs : List Char) : (takeScheme cs).2 ⊆ cs := by
  unfold takeScheme
  split
  · rename_i d scheme rest hcut
    split
    · rcases cutAtChar_cases ':' cs with ⟨-, h⟩ | ⟨before, after, -, hcs, h⟩
      · rw [h] at hcut
        cases hcut
      · rw [h] at hcut
        obtain ⟨-, hafter⟩ := Prod.mk.inj hcut
        rw [hcs, ← Option.some.inj hafter]
        exact fun e he => List.mem_append_right before (List.mem_cons_of_mem ':' he)
    · exact List.Subset.refl cs
  · exact List.Subset.refl cs

theorem of_mem_takeAuthority (h : c ∈ (takeAuthority cs).1) : c ∈ cs ∧ endsAuthority c = false := by
  unfold takeAuthority at h
  split at h
  · rename_i rest
    refine ⟨?_, by simpa using List.mem_takeWhile_imp h⟩
    exact List.mem_cons_of_mem _ (List.mem_cons_of_mem _ ((List.takeWhile_prefix _).subset h))
  · cases h

/-! ### Hosts -/

theorem hostAndPort_of_not_mem (h : '[' ∉ cs) :
    hostAndPort cs = ((cutAtChar ':' cs).1, (cutAtChar ':' cs).2.getD []) := by
  rw [hostAndPort, cutAtChar_of_not_mem h]

/-- A host is what stands before a bracket that closes, or has no bracket that opens. -/
theorem hostAndPort_cases (cs : List Char) :
    ('[' ∉ cs ∧ hostAndPort cs = ((cutAtChar ':' cs).1, (cutAtChar ':' cs).2.getD [])) ∨
      ∃ bracketed, bracketed ⊆ cs ∧ (hostAndPort cs).1 = (cutAtChar ']' bracketed).1 := by
  rcases cutAtChar_cases '[' cs with ⟨hmem, -⟩ | ⟨before, bracketed, -, hcs, hcut⟩
  · exact .inl ⟨hmem, hostAndPort_of_not_mem hmem⟩
  · refine .inr ⟨bracketed, ?_, by rw [hostAndPort, hcut]⟩
    rw [hcs]
    exact fun d hd => List.mem_append_right before (List.mem_cons_of_mem '[' hd)

theorem host_subset (cs : List Char) : (hostAndPort cs).1 ⊆ cs := by
  rcases hostAndPort_cases cs with ⟨-, h⟩ | ⟨bracketed, hsubset, h⟩
  · rw [h]
    exact (cutAtChar_isPrefix ':' cs).subset
  · rw [h]
    exact List.Subset.trans (cutAtChar_isPrefix ']' bracketed).subset hsubset

theorem not_mem_host_brackets (hopen : '[' ∈ (hostAndPort cs).1) : ']' ∉ (hostAndPort cs).1 := by
  rcases hostAndPort_cases cs with ⟨hmem, -⟩ | ⟨bracketed, -, h⟩
  · exact absurd (host_subset cs hopen) hmem
  · rw [h]
    exact not_mem_cutAtChar ']' bracketed

theorem bracketsAreSound_of_not_mem (hopen : '[' ∉ cs) (hclose : ']' ∉ cs) :
    bracketsAreSound cs = true := by
  simp [bracketsAreSound, hopen, hclose]

/-- Brackets in order come in pairs. -/
theorem mem_iff_mem_of_bracketsAreSound (h : bracketsAreSound cs = true) :
    '[' ∈ cs ↔ ']' ∈ cs := by
  unfold bracketsAreSound at h
  by_cases hopen : '[' ∈ cs <;> by_cases hclose : ']' ∈ cs <;> simp_all

/-! ### Lower case -/

/-- A host whose letters before a zone are in lower case. -/
def IsLowerHost (cs : List Char) : Prop := ∀ c ∈ (cutAtChar '%' cs).1, IsLower c

theorem lowerHost_of_isLowerHost (h : IsLowerHost cs) : lowerHost cs = cs := by
  unfold IsLowerHost at h
  rcases cutAtChar_cases '%' cs with ⟨-, hcut⟩ | ⟨host, zone, -, hcs, hcut⟩
  · rw [hcut] at h
    rw [lowerHost, hcut]
    exact lowerChars_of_isLower h
  · rw [hcut] at h
    rw [lowerHost, hcut]
    dsimp only
    rw [lowerChars_of_isLower h, hcs]

theorem isLowerHost_lowerHost (cs : List Char) : IsLowerHost (lowerHost cs) := by
  have hzone {host : List Char} (h : '%' ∉ host) : '%' ∉ lowerChars host :=
    fun hmem => h (mem_of_mem_lowerChars (by decide +kernel) hmem)
  intro c hc
  rcases cutAtChar_cases '%' cs with ⟨hnone, hcut⟩ | ⟨host, zone, hnone, -, hcut⟩
  · rw [lowerHost, hcut] at hc
    exact isLower_of_mem_lowerChars ((cutAtChar_isPrefix '%' _).subset hc)
  · rw [lowerHost, hcut] at hc
    dsimp only at hc
    rw [cutAtChar_append_cons (hzone hnone)] at hc
    exact isLower_of_mem_lowerChars hc

/-- A part at the start of a host in lower case is in lower case: its zone, if it has one, is a part
of the zone. -/
theorem IsLowerHost.of_prefix (h : IsLowerHost cs) (hpart : ds <+: cs) : IsLowerHost ds := by
  intro c hc
  refine h c ?_
  obtain ⟨more, rfl⟩ := hpart
  rcases cutAtChar_cases '%' ds with ⟨hnone, hcut⟩ | ⟨host, zone, hnone, hds, hcut⟩
  · rw [hcut] at hc
    rcases cutAtChar_cases '%' more with ⟨hmore, -⟩ | ⟨before, after, hbefore, hmore, -⟩
    · rw [cutAtChar_of_not_mem (by simp [hnone, hmore])]
      exact List.mem_append_left more hc
    · rw [hmore, ← List.append_assoc, cutAtChar_append_cons (by simp [hnone, hbefore])]
      exact List.mem_append_left before hc
  · rw [hcut] at hc
    rw [hds, List.append_assoc, List.cons_append, cutAtChar_append_cons hnone]
    exact hc

/-- Lower case brings no new delimiter into a host. -/
theorem mem_of_mem_lowerHost (hc : isMadeByLowering c.toNat = false) (h : c ∈ lowerHost cs) :
    c ∈ cs := by
  rcases cutAtChar_cases '%' cs with ⟨-, hcut⟩ | ⟨host, zone, -, hcs, hcut⟩
  · rw [lowerHost, hcut] at h
    exact mem_of_mem_lowerChars hc h
  · rw [lowerHost, hcut] at h
    rw [hcs, List.mem_append]
    exact (List.mem_append.mp h).imp_left (mem_of_mem_lowerChars hc)

/-! ### Ports -/

theorem le_of_readPort_eq_some (h : readPort cs = some (some n)) : n ≤ 65535 := by
  unfold readPort at h
  split at h
  · cases h
  · split at h
    · split at h
      · rename_i hsmall
        obtain rfl : ofAsciiDigits cs = n := Option.some.inj (Option.some.inj h)
        simp only [Bool.and_eq_true, decide_eq_true_eq] at hsmall
        exact hsmall.2
      · cases h
    · cases h

theorem readPort_toDigits (h : n ≤ 65535) : readPort (Nat.toDigits 10 n) = some (some n) := by
  have hdigits : (Nat.toDigits 10 n).all Char.isDigit = true :=
    List.all_eq_true.mpr fun c hc => isDigit_of_mem_toDigits hc
  have hlength : (Nat.toDigits 10 n).length ≤ 5 :=
    length_toDigits_le (by decide) (Nat.lt_of_le_of_lt h (by decide))
  have hlimit : (Nat.toDigits 10 n).length ≤ digitLimit := hlength.trans (by decide)
  rw [readPort, if_neg (by simp [Nat.toDigits_ne_nil]), if_pos hdigits,
    if_pos (by simp [hlimit, ofAsciiDigits_toDigits, h]), ofAsciiDigits_toDigits]

/-! ### Every split URL -/

/-- The authority that a URL is split at. -/
def authorityOf (url : List Char) : List Char :=
  (takeAuthority (takeScheme (countedCharacters url)).2).1

theorem of_mem_authorityOf (h : c ∈ authorityOf url) :
    endsAuthority c = false ∧ (c != '\t' && c != '\r' && c != '\n') = true := by
  obtain ⟨hmem, hends⟩ := of_mem_takeAuthority h
  exact ⟨hends, mem_of_mem_countedCharacters (takeScheme_subset _ hmem)⟩

/-- Host and port of a split URL are read from its authority after the user information. -/
theorem Split.of?_eq_some (h : Split.of? url = some s) :
    (∀ c ∈ authorityOf url, disguisedDelimiters.contains c.toNat = false) ∧
      readPort (hostAndPort (afterLast '@' (authorityOf url))).2 = some s.port ∧
        s.host = lowerHost (hostAndPort (afterLast '@' (authorityOf url))).1 := by
  simp only [Split.of?] at h
  change (if !bracketsAreSound (authorityOf url) then none
    else if (authorityOf url).any fun c => disguisedDelimiters.contains c.toNat then none
    else _) = some s at h
  split at h
  · cases h
  · split at h
    · cases h
    · rename_i hdisguised
      split at h
      · cases h
      · rename_i port hport
        obtain rfl := Option.some.inj h
        exact ⟨by simpa using hdisguised, hport, rfl⟩

/-- What holds of the host and the port of a split URL. -/
structure Split.IsSound (s : Split) : Prop where
  host : ∀ c ∈ s.host, IsHostCharacter c
  brackets : '[' ∈ s.host → ']' ∉ s.host
  lower : IsLowerHost s.host
  port : ∀ n ∈ s.port, n ≤ 65535

theorem Split.isSound_of_of?_eq_some (h : Split.of? url = some s) : s.IsSound := by
  obtain ⟨hdisguised, hport, hhost⟩ := Split.of?_eq_some h
  generalize hplace : afterLast '@' (authorityOf url) = place at hport hhost
  have hcharacters : ∀ c ∈ place, IsHostCharacter c := by
    intro c hc
    have hat : c ≠ '@' := by
      rintro rfl
      exact not_mem_afterLast '@' (authorityOf url) (hplace ▸ hc)
    have hmem : c ∈ authorityOf url := (afterLast_isSuffix '@' (authorityOf url)).subset (hplace ▸ hc)
    obtain ⟨hends, hcounted⟩ := of_mem_authorityOf hmem
    exact ⟨hends, hat, hcounted, hdisguised c hmem⟩
  rw [← Option.mem_def] at hport
  constructor
  · intro c hc
    by_contra hnot
    rw [hhost] at hc
    exact hnot (hcharacters c (host_subset place
      (mem_of_mem_lowerHost (isMadeByLowering_of_not_isHostCharacter hnot) hc)))
  · rw [hhost]
    intro hopen hclose
    exact not_mem_host_brackets (mem_of_mem_lowerHost (by decide +kernel) hopen)
      (mem_of_mem_lowerHost (by decide +kernel) hclose)
  · rw [hhost]
    exact isLowerHost_lowerHost _
  · intro n hn
    rw [Option.mem_def.mp hn] at hport
    exact le_of_readPort_eq_some hport

/-! ### URLs without user information and path -/

/-- A scheme that splitting leaves as it is. -/
def IsScheme (cs : List Char) : Prop := cs ≠ [] ∧ ∀ c ∈ cs, c.isAlpha = true ∧ c.toLower = c

instance (cs : List Char) : Decidable (IsScheme cs) :=
  @instDecidableAnd _ _ inferInstance (List.decidableBAll _ cs)

theorem takeScheme_append (h : IsScheme scheme) (rest : List Char) :
    takeScheme (scheme ++ ':' :: rest) = (scheme, rest) := by
  obtain ⟨hne, hletters⟩ := h
  have hcolon : ':' ∉ scheme := fun hmem => absurd (hletters ':' hmem).1 (by decide)
  have hlower : scheme.map Char.toLower = scheme :=
    (List.map_congr_left fun c hc => (hletters c hc).2).trans (List.map_id' scheme)
  obtain ⟨d, more, rfl⟩ := List.exists_cons_of_ne_nil hne
  have hmore : more.all isSchemeCharacter = true := by
    refine List.all_eq_true.mpr fun c hc => ?_
    simp [isSchemeCharacter, Char.isAlphanum, (hletters c (List.mem_cons_of_mem d hc)).1]
  rw [takeScheme, cutAtChar_append_cons hcolon]
  dsimp only
  rw [if_pos (by simp [(hletters d List.mem_cons_self).1, hmore]), hlower]

theorem countedCharacters_eq_self (hfirst : ∀ c ∈ cs.head?, 0x20 < c.toNat)
    (h : ∀ c ∈ cs, (c != '\t' && c != '\r' && c != '\n') = true) : countedCharacters cs = cs := by
  have hdrop : cs.dropWhile (fun c => c.toNat ≤ 0x20) = cs := by
    cases cs with
    | nil => rfl
    | cons c cs =>
        have hc : 0x20 < c.toNat := hfirst c (by simp)
        rw [List.dropWhile_cons_of_neg (by simpa using hc)]
  rw [countedCharacters, hdrop, List.filter_eq_self]
  exact h

theorem takeAuthority_bare (h : ∀ c ∈ place, IsHostCharacter c) :
    takeAuthority ('/' :: '/' :: place) = (place, []) := by
  have hall : ∀ c ∈ place, (!endsAuthority c) = true := fun c hc => by simp [(h c hc).1]
  rw [takeAuthority, List.takeWhile_eq_self_iff.mpr hall, List.dropWhile_eq_nil_iff.mpr hall]

/-- How a URL is split that consists of a scheme, a host and a port. -/
theorem Split.of?_bare (hscheme : IsScheme scheme) (h : ∀ c ∈ place, IsHostCharacter c) :
    Split.of? (scheme ++ ':' :: '/' :: '/' :: place) =
      if bracketsAreSound place then
        (readPort (hostAndPort place).2).map fun port =>
          ⟨scheme, lowerHost (hostAndPort place).1, port, [], [], []⟩
      else none := by
  have hcounted : countedCharacters (scheme ++ ':' :: '/' :: '/' :: place) =
      scheme ++ ':' :: '/' :: '/' :: place := by
    obtain ⟨hne, hletters⟩ := hscheme
    refine countedCharacters_eq_self ?_ ?_
    · rw [List.head?_append_of_ne_nil _ hne]
      intro c hc
      have hrange := toNat_of_isAlpha (hletters c (List.mem_of_mem_head? hc)).1
      omega
    · intro c hc
      simp only [List.mem_append, List.mem_cons] at hc
      rcases hc with hc | rfl | rfl | rfl | hc
      · have halpha := (hletters c hc).1
        simp only [Bool.and_eq_true, bne_iff_ne]
        refine ⟨⟨?_, ?_⟩, ?_⟩ <;> rintro rfl <;> exact absurd halpha (by decide)
      · decide
      · decide
      · decide
      · exact (h c hc).2.2.1
  have hat : '@' ∉ place := fun hmem => (h '@' hmem).2.1 rfl
  have hdisguised : (place.any fun c => disguisedDelimiters.contains c.toNat) = false :=
    List.any_eq_false.mpr fun c hc => by simp only [(h c hc).2.2.2, Bool.false_eq_true,
      not_false_eq_true]
  simp only [Split.of?, hcounted, takeScheme_append hscheme, takeAuthority_bare h,
    afterLast_of_not_mem hat, hdisguised]
  cases bracketsAreSound place
  · rfl
  · cases readPort (hostAndPort place).2 <;> rfl

end TabNotes.Url
