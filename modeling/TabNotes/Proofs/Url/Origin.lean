import TabNotes.Proofs.Text.Blank
import TabNotes.Proofs.Url.Split
import TabNotes.Url.Parts

/-! # Reading origins

An origin is a scheme, a bare host and the port unless it is the scheme's own one.  Read as a URL it
has the same host, scheme and origin exactly when the host has no colon and no bracket and trimming
takes nothing away (`Parts.of_origin_agrees_iff`).  So an address of version 6 does not come back:
its brackets are not part of the host, and without them its first colon begins a port. -/

namespace TabNotes.Url

open TabNotes.Text TabNotes.Number

variable {url : String} {host kept : List Char} {standard : Nat} {port : Option Nat}
  {c : Char} {s : Split}

/-! ### Parts of a split URL -/

theorem isScheme_of_lookup {name : String} (h : originPorts.lookup name = some standard) :
    IsScheme name.toList := by
  have hall : ∀ entry ∈ originPorts, IsScheme entry.1.toList := by decide +kernel
  obtain ⟨before, after, hports, -⟩ := List.lookup_eq_some_iff.mp h
  exact hall (name, standard) (by rw [hports]; exact List.mem_append_right before List.mem_cons_self)

theorem Parts.ofSplit_of_lookup
    (hlookup : originPorts.lookup (String.ofList s.scheme) = some standard) (hhost : s.host ≠ []) :
    (Parts.ofSplit s).hostname = String.ofList s.host ∧
      (Parts.ofSplit s).protocol = String.ofList s.scheme ++ ":" ∧
        (Parts.ofSplit s).origin =
          originText (String.ofList s.scheme) (String.ofList s.host) standard s.port := by
  have hscheme : (String.ofList s.scheme == "") = false := by
    have hne := (isScheme_of_lookup hlookup).1
    rw [String.toList_ofList] at hne
    simpa using hne
  have hname : ((originPorts.lookup (String.ofList s.scheme)).isSome &&
      String.ofList s.host == "") = false := by
    simpa [hlookup] using hhost
  unfold Parts.ofSplit
  dsimp only
  rw [if_neg (by simp [hscheme]), if_neg (by simp [hname]), hlookup]
  exact ⟨rfl, rfl, rfl⟩

/-- Only a scheme with a port of its own has an origin. -/
theorem Parts.exists_lookup_of_origin_ne_empty (h : (Parts.ofSplit s).origin ≠ "") :
    (∃ standard, originPorts.lookup (String.ofList s.scheme) = some standard) ∧ s.host ≠ [] := by
  unfold Parts.ofSplit at h
  dsimp only at h
  split at h
  · exact absurd rfl h
  · split at h
    · exact absurd rfl h
    · rename_i hhost
      dsimp only at h
      split at h
      · rename_i standard hstandard
        refine ⟨⟨standard, hstandard⟩, ?_⟩
        rintro hnil
        simp [hstandard, hnil] at hhost
      · exact absurd rfl h

theorem Parts.of_eq_ofSplit (h : Split.of? (trimChars url.toList) = some s)
    (hne : trimChars url.toList ≠ []) : Parts.of url = .ofSplit s := by
  unfold Parts.of
  dsimp only
  rw [if_neg (by simpa using hne), h]

theorem Parts.exists_split_of_origin_ne_empty (h : (Parts.of url).origin ≠ "") :
    ∃ s, Split.of? (trimChars url.toList) = some s ∧ Parts.of url = .ofSplit s := by
  unfold Parts.of at h ⊢
  dsimp only at h ⊢
  split at h
  · exact absurd rfl h
  · rename_i hne
    rw [if_neg hne]
    split at h
    · rename_i s hs
      exact ⟨s, hs, rfl⟩
    · exact absurd rfl h

/-! ### Writing origins -/

/-- The port that an origin shows. -/
def shownPort (standard : Nat) (port : Option Nat) : Option Nat := port.filter (· != standard)

/-- A port as an origin shows it. -/
def portText : Option Nat → List Char
  | some n => ':' :: Nat.toDigits 10 n
  | none => []

@[simp] theorem shownPort_none (standard : Nat) : shownPort standard none = none := rfl

@[simp] theorem shownPort_some (standard n : Nat) :
    shownPort standard (some n) = if n = standard then none else some n := by
  by_cases hn : n = standard <;> simp [shownPort, Option.filter_some, hn]

theorem toList_originText (scheme host : String) (standard : Nat) (port : Option Nat) :
    (originText scheme host standard port).toList =
      scheme.toList ++ ':' :: '/' :: '/' :: (host.toList ++ portText (shownPort standard port)) := by
  cases port with
  | none => simp [originText, portText]
  | some n =>
      by_cases hn : n = standard
      · simp [originText, portText, hn]
      · simp [originText, portText, hn, Nat.toString_eq_repr, Nat.toList_repr]

/-- A port that is not shown makes no difference. -/
theorem originText_shownPort (scheme host : String) (standard : Nat) (port : Option Nat) :
    originText scheme host standard (shownPort standard port) =
      originText scheme host standard port := by
  rw [← String.toList_inj, toList_originText, toList_originText]
  simp [shownPort, Option.filter_filter]

theorem eq_or_isDigit_of_mem_portText (h : c ∈ portText port) : c = ':' ∨ c.isDigit = true := by
  cases port with
  | none => cases h
  | some n => exact (List.mem_cons.mp h).imp_right isDigit_of_mem_toDigits

theorem isHostCharacter_of_mem_portText (h : c ∈ portText port) : IsHostCharacter c := by
  rcases eq_or_isDigit_of_mem_portText h with rfl | hdigit
  · unfold IsHostCharacter
    decide
  · have hrange : 48 ≤ c.toNat ∧ c.toNat ≤ 57 := Char.isDigit_iff_toNat.mp hdigit
    have hhigh : ∀ n ∈ disguisedDelimiters, 57 < n := by decide
    refine ⟨?_, ?_, ?_, ?_⟩
    · simp only [endsAuthority, Bool.or_eq_false_iff, beq_eq_false_iff_ne]
      refine ⟨⟨?_, ?_⟩, ?_⟩ <;> rintro rfl <;> exact absurd hdigit (by decide)
    · rintro rfl
      exact absurd hdigit (by decide)
    · simp only [Bool.and_eq_true, bne_iff_ne]
      refine ⟨⟨?_, ?_⟩, ?_⟩ <;> rintro rfl <;> exact absurd hdigit (by decide)
    · rw [← Bool.not_eq_true, List.contains_iff_mem]
      intro hmem
      have := hhigh c.toNat hmem
      omega

/-! ### Reading hosts and ports -/

/-- A host without colon and brackets is read back with its port. -/
theorem hostAndPort_append_portText (h : ∀ c ∈ host, c ∉ [':', '[', ']']) (port : Option Nat) :
    hostAndPort (host ++ portText port) = (host, (portText port).drop 1) := by
  have hcolon : ':' ∉ host := fun hmem => h ':' hmem (by decide)
  have hopen : '[' ∉ host ++ portText port := by
    intro hmem
    rcases List.mem_append.mp hmem with hmem | hmem
    · exact h '[' hmem (by decide)
    · exact absurd (eq_or_isDigit_of_mem_portText hmem) (by decide)
  rw [hostAndPort_of_not_mem hopen]
  cases port with
  | none =>
      rw [portText, List.append_nil, cutAtChar_of_not_mem hcolon]
      rfl
  | some n =>
      rw [portText, cutAtChar_append_cons hcolon]
      rfl

theorem readPort_portText (h : ∀ n ∈ port, n ≤ 65535) :
    readPort ((portText port).drop 1) = some port := by
  cases port with
  | none => rfl
  | some n => exact readPort_toDigits (h n rfl)

/-! ### Origins of split URLs -/

/-- What the origin of a split URL has after its slashes. -/
def Split.place (s : Split) (standard : Nat) : List Char :=
  s.host ++ portText (shownPort standard s.port)

/-- The origin of a split URL whose scheme has a port of its own. -/
def Split.origin (s : Split) (standard : Nat) : String :=
  originText (String.ofList s.scheme) (String.ofList s.host) standard s.port

theorem Split.toList_origin (s : Split) (standard : Nat) :
    (s.origin standard).toList = s.scheme ++ ':' :: '/' :: '/' :: s.place standard := by
  rw [Split.origin, toList_originText, String.toList_ofList, String.toList_ofList, Split.place]

theorem isBlank_of_isAlpha (h : c.isAlpha = true) : isBlank c = false := by
  have hrange := toNat_of_isAlpha h
  simp only [isBlank, Bool.or_eq_false_iff, Bool.and_eq_false_imp, decide_eq_true_eq,
    decide_eq_false_iff_not, beq_eq_false_iff_ne]
  omega

/-- Trimming an origin leaves its scheme alone. -/
theorem Split.trimChars_origin (hscheme : IsScheme s.scheme) (standard : Nat) :
    trimChars (s.origin standard).toList =
      s.scheme ++ ':' :: '/' :: '/' :: dropTrailingBlanks (s.place standard) := by
  obtain ⟨hne, hletters⟩ := hscheme
  have hdrop : dropBlanks (s.origin standard).toList = (s.origin standard).toList := by
    rw [Split.toList_origin]
    obtain ⟨c, more, hcs⟩ := List.exists_cons_of_ne_nil hne
    have hc : c.isAlpha = true := (hletters c (by simp [hcs])).1
    rw [hcs, List.cons_append, dropBlanks,
      List.dropWhile_cons_of_neg (by simp [isBlank_of_isAlpha hc])]
  have hsplit (rest : List Char) :
      s.scheme ++ ':' :: '/' :: '/' :: rest = (s.scheme ++ [':', '/']) ++ '/' :: rest := by simp
  rw [trimChars, hdrop, Split.toList_origin, hsplit, hsplit,
    dropTrailingBlanks_append_cons (by decide)]

theorem Split.trim_origin_eq_iff (hscheme : IsScheme s.scheme) (standard : Nat) :
    trim (s.origin standard) = s.origin standard ↔
      dropTrailingBlanks (s.place standard) = s.place standard := by
  rw [trim, ← String.toList_inj, String.toList_ofList, Split.trimChars_origin hscheme,
    Split.toList_origin]
  simp

/-- How an origin is split. -/
theorem Split.of?_origin (hs : s.IsSound) (hscheme : IsScheme s.scheme)
    (hkept : dropTrailingBlanks (s.place standard) = kept) :
    Split.of? (trimChars (s.origin standard).toList) =
      if bracketsAreSound kept then
        (readPort (hostAndPort kept).2).map fun port =>
          ⟨s.scheme, lowerHost (hostAndPort kept).1, port, [], [], []⟩
      else none := by
  have hcharacters : ∀ c ∈ kept, IsHostCharacter c := by
    intro c hc
    rw [← hkept] at hc
    rcases List.mem_append.mp ((dropTrailingBlanks_isPrefix _).subset hc) with hc | hc
    · exact hs.host c hc
    · exact isHostCharacter_of_mem_portText hc
  rw [Split.trimChars_origin hscheme, hkept, Split.of?_bare hscheme hcharacters]

/-- A host that is read back has no colon, since without brackets a colon ends it, and no bracket,
since brackets are refused unless they come in pairs and no host has both. -/
theorem Split.IsSound.not_mem_of_lowerHost_eq (hs : s.IsSound)
    (hpart : kept <+: s.place standard) (hsound : bracketsAreSound kept = true)
    (hhost : lowerHost (hostAndPort kept).1 = s.host) : ∀ c ∈ s.host, c ∉ [':', '[', ']'] := by
  have hmade : ([':', '[', ']'].all (!isMadeByLowering ·.toNat)) = true := by decide +kernel
  have hbracket : ∀ c ∈ ['[', ']'], c ∈ kept → c ∈ s.host := by
    intro c hc hmem
    rcases List.mem_append.mp (hpart.subset hmem) with hmem | hmem
    · exact hmem
    · rcases List.mem_pair.mp hc with rfl | rfl <;>
        exact absurd (eq_or_isDigit_of_mem_portText hmem) (by decide)
  have hpair := mem_iff_mem_of_bracketsAreSound hsound
  have hopen : '[' ∉ kept := fun hmem =>
    hs.brackets (hbracket '[' (by decide) hmem) (hbracket ']' (by decide) (hpair.mp hmem))
  intro c hc hdelimiter
  rw [← hhost] at hc
  have hmem := mem_of_mem_lowerHost (by simpa using List.all_eq_true.mp hmade c hdelimiter) hc
  simp only [List.mem_cons, List.not_mem_nil, or_false] at hdelimiter
  rcases hdelimiter with rfl | rfl | rfl
  · rw [hostAndPort_of_not_mem hopen] at hmem
    exact not_mem_cutAtChar ':' kept hmem
  · exact hopen (host_subset kept hmem)
  · exact hopen (hpair.mpr (host_subset kept hmem))

/-- White space at the end of an origin, which is that of a host without port, would be lost. -/
theorem Split.IsSound.dropTrailingBlanks_place (hs : s.IsSound)
    (hdelimiters : ∀ c ∈ s.host, c ∉ [':', '[', ']'])
    (hkept : dropTrailingBlanks (s.place standard) = kept)
    (hhost : lowerHost (hostAndPort kept).1 = s.host) :
    kept = s.place standard := by
  unfold Split.place at hkept ⊢
  generalize shownPort standard s.port = shown at hkept ⊢
  cases shown with
  | none =>
      rw [portText, List.append_nil] at hkept ⊢
      have hpart : kept <+: s.host := hkept ▸ dropTrailingBlanks_isPrefix s.host
      have hread := hostAndPort_append_portText
        (fun c hc => hdelimiters c (hpart.subset hc)) none
      rw [portText, List.append_nil] at hread
      rw [hread, lowerHost_of_isLowerHost (hs.lower.of_prefix hpart)] at hhost
      exact hhost
  | some n =>
      have hdigits : dropTrailingBlanks (Nat.toDigits 10 n) = Nat.toDigits 10 n := by
        rw [dropTrailingBlanks_eq, List.rdropWhile_eq_self_iff]
        intro hne
        have hlast := isDigit_of_mem_toDigits (List.getLast_mem hne)
        simp [isBlank_of_isDigit hlast]
      rw [← hkept, portText, dropTrailingBlanks_append_cons (by decide), hdigits]

/-- The origin of a split URL has the parts that it was made of. -/
def Split.OriginAgrees (s : Split) (standard : Nat) : Prop :=
  (Parts.of (s.origin standard)).hostname = String.ofList s.host ∧
    (Parts.of (s.origin standard)).protocol = String.ofList s.scheme ++ ":" ∧
      (Parts.of (s.origin standard)).origin = s.origin standard

theorem Split.IsSound.origin_agrees (hs : s.IsSound)
    (hlookup : originPorts.lookup (String.ofList s.scheme) = some standard) (hhost : s.host ≠ [])
    (hdelimiters : ∀ c ∈ s.host, c ∉ [':', '[', ']'])
    (htrim : dropTrailingBlanks (s.place standard) = s.place standard) :
    s.OriginAgrees standard := by
  have hscheme : IsScheme s.scheme := by simpa using isScheme_of_lookup hlookup
  have hnone : ∀ c ∈ ['[', ']'], c ∉ s.place standard := by
    intro c hc hmem
    rcases List.mem_append.mp hmem with hmem | hmem
    · exact hdelimiters c hmem (List.mem_cons_of_mem ':' hc)
    · rcases List.mem_pair.mp hc with rfl | rfl <;>
        exact absurd (eq_or_isDigit_of_mem_portText hmem) (by decide)
  have hport : ∀ n ∈ shownPort standard s.port, n ≤ 65535 := fun n hn =>
    hs.port n (Option.mem_filter_iff.mp hn).1
  have hsplit := Split.of?_origin hs hscheme htrim
  rw [if_pos (bracketsAreSound_of_not_mem (hnone '[' (by decide)) (hnone ']' (by decide))),
    Split.place, hostAndPort_append_portText hdelimiters, readPort_portText hport,
    lowerHost_of_isLowerHost hs.lower, Option.map_some] at hsplit
  have hne : trimChars (s.origin standard).toList ≠ [] := by
    rw [Split.trimChars_origin hscheme]
    simp
  obtain ⟨hname, hprotocol, horigin⟩ := @Parts.ofSplit_of_lookup standard
    ⟨s.scheme, s.host, shownPort standard s.port, [], [], []⟩ hlookup hhost
  rw [Split.OriginAgrees, Parts.of_eq_ofSplit hsplit hne]
  exact ⟨hname, hprotocol, horigin.trans (originText_shownPort _ _ _ _)⟩

theorem Split.IsSound.of_originAgrees (hs : s.IsSound)
    (hlookup : originPorts.lookup (String.ofList s.scheme) = some standard)
    (h : s.OriginAgrees standard) :
    (∀ c ∈ s.host, c ∉ [':', '[', ']']) ∧
      dropTrailingBlanks (s.place standard) = s.place standard := by
  have hscheme : IsScheme s.scheme := by simpa using isScheme_of_lookup hlookup
  obtain ⟨hname, -, horigin⟩ := h
  have hne : (Parts.of (s.origin standard)).origin ≠ "" := by
    rw [horigin, ne_eq, ← String.toList_inj, Split.toList_origin]
    simp
  obtain ⟨reread, hreread, hparts⟩ := Parts.exists_split_of_origin_ne_empty hne
  rw [hparts] at hname hne
  generalize hkept : dropTrailingBlanks (s.place standard) = kept
  rw [Split.of?_origin hs hscheme hkept] at hreread
  split at hreread
  · rename_i hsound
    obtain ⟨port, -, hsplit⟩ := Option.map_eq_some_iff.mp hreread
    have hsame : reread.scheme = s.scheme := by rw [← hsplit]
    have hread := (Parts.ofSplit_of_lookup (hsame ▸ hlookup)
      (Parts.exists_lookup_of_origin_ne_empty hne).2).1
    have hhost' : lowerHost (hostAndPort kept).1 = s.host := by
      rw [hread, String.ofList_inj] at hname
      rw [← hname, ← hsplit]
    have hpart : kept <+: s.place standard := hkept ▸ dropTrailingBlanks_isPrefix _
    have hdelimiters := hs.not_mem_of_lowerHost_eq hpart hsound hhost'
    exact ⟨hdelimiters, hs.dropTrailingBlanks_place hdelimiters hkept hhost'⟩
  · cases hreread

/-- An origin that is read as a URL has the host, the scheme and the origin of the URL that it comes
from exactly when the host has neither a colon nor a bracket and the origin has no white space at an
end. -/
theorem Parts.of_origin_agrees_iff (url : String) (h : (Parts.of url).origin ≠ "") :
    ((Parts.of (Parts.of url).origin).hostname = (Parts.of url).hostname ∧
      (Parts.of (Parts.of url).origin).protocol = (Parts.of url).protocol ∧
        (Parts.of (Parts.of url).origin).origin = (Parts.of url).origin) ↔
      (∀ c ∈ (Parts.of url).hostname.toList, c ∉ [':', '[', ']']) ∧
        trim (Parts.of url).origin = (Parts.of url).origin := by
  obtain ⟨s, hs, hparts⟩ := Parts.exists_split_of_origin_ne_empty h
  rw [hparts] at h ⊢
  obtain ⟨⟨standard, hlookup⟩, hhost⟩ := Parts.exists_lookup_of_origin_ne_empty h
  obtain ⟨hname, hprotocol, horigin⟩ := Parts.ofSplit_of_lookup hlookup hhost
  have hsound := Split.isSound_of_of?_eq_some hs
  have hscheme : IsScheme s.scheme := by simpa using isScheme_of_lookup hlookup
  change _ = s.origin standard at horigin
  rw [hname, hprotocol, horigin, Split.trim_origin_eq_iff hscheme, String.toList_ofList]
  exact ⟨hsound.of_originAgrees hlookup, fun ⟨hdelimiters, htrim⟩ =>
    hsound.origin_agrees hlookup hhost hdelimiters htrim⟩

/-- A name comes back with its port, an address of version 6 does not. -/
theorem Parts.of_origin_agrees_name_not_address :
    ((Parts.of "http://example.com:8080").hostname = "example.com" ∧
      (Parts.of "http://example.com:8080").protocol = "http:" ∧
        (Parts.of "http://example.com:8080").origin = "http://example.com:8080") ∧
      ¬ ((Parts.of "http://::1").hostname = "::1" ∧ (Parts.of "http://::1").protocol = "http:" ∧
        (Parts.of "http://::1").origin = "http://::1") := by
  have hname : Parts.of "http://me@Example.com:8080/a" =
      ⟨"example.com", "http://example.com:8080", "http:", "/a", "", ""⟩ := by decide +kernel
  have haddress : Parts.of "http://[::1]/" = ⟨"::1", "http://::1", "http:", "/", "", ""⟩ := by
    decide +kernel
  have hback := Parts.of_origin_agrees_iff "http://me@Example.com:8080/a" (by rw [hname]; decide)
  have hlost := Parts.of_origin_agrees_iff "http://[::1]/" (by rw [haddress]; decide)
  rw [hname] at hback
  rw [haddress] at hlost
  refine ⟨hback.mpr ⟨?_, by decide +kernel⟩, fun h => ?_⟩
  · simp
  · exact (hlost.mp h).1 ':' (by decide +kernel) (by decide)

end TabNotes.Url
