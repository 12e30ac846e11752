/-
Module: LibAtbus.Proofs.AddressParsing
Layer: Proofs
Purpose: What `make_address` makes of a string: it splits an address at `://` and at the last colon
  behind it, and it is wrong about exactly those strings whose first colon or slash does not begin
  `://`. What is printed is parsed back, unless it has no port and a colon in its host.
Trusted boundary: none
Main exports: Splits, makeAddress_of_splits, makeAddress_of_clear, ParsesRight, parsesRight_iff,
  PrintsRight, printsRight_iff
-/
import LibAtbus.Channel.Address

namespace LibAtbus.Channel

open StdString Word64

variable {text scheme rest host tail : List Char} {addr : ChannelAddress}

/-! ### Parsing -/

/-- The string is an address: a scheme, `://` and the rest. -/
def Splits (text scheme rest : List Char) : Prop :=
  text = scheme ++ "://".toList ++ rest ∧ ':' ∉ scheme ∧ '/' ∉ scheme

/-- Characters of `://` are colons and slashes. -/
theorem mem_separators_iff {char : Char} : char ∈ "://".toList ↔ char = ':' ∨ char = '/' := by
  simp

theorem clear_separators_iff : Clear "://".toList text ↔ ':' ∉ text ∧ '/' ∉ text := by
  constructor
  · intro clear
    exact ⟨fun colon => clear ':' colon (by decide), fun slash => clear '/' slash (by decide)⟩
  · rintro ⟨noColon, noSlash⟩ char member separates
    rcases mem_separators_iff.mp separates with rfl | rfl
    · exact noColon member
    · exact noSlash member

theorem clear_colon_iff : Clear ":".toList text ↔ ':' ∉ text := by
  constructor
  · exact fun clear colon => clear ':' colon (by decide)
  · intro noColon char member separates
    rw [show char = ':' by simpa using separates] at member
    exact noColon member

/-- A string without colons and slashes is refused. -/
theorem makeAddress_of_clear (clear : Clear "://".toList text) :
    makeAddress text addr = .ok (false, { addr with address := text }) := by
  rw [makeAddress, findFirstOf_eq_none_iff.mpr clear]

namespace Splits

theorem length_eq (splits : Splits text scheme rest) :
    text.length = scheme.length + 3 + rest.length := by
  rw [splits.1, List.length_append, List.length_append]
  rfl

/-- The scheme of an address ends where the first colon or slash is found. -/
theorem findFirstOf (splits : Splits text scheme rest) :
    findFirstOf text "://".toList = some scheme.length := by
  obtain ⟨rfl, noColon, noSlash⟩ := splits
  have separated : scheme ++ "://".toList ++ rest = scheme ++ ':' :: ("//".toList ++ rest) := by
    rw [List.append_assoc]
    rfl
  rw [separated]
  exact findFirstOf_split (clear_separators_iff.mpr ⟨noColon, noSlash⟩) (by decide)

/-- What becomes of an address, told from where its last colon is. -/
theorem makeAddress_eq {portEnd : Option Nat} (splits : Splits text scheme rest)
    (last : findLastOf ":".toList text = portEnd) :
    makeAddress text addr = .ok (true,
      { address := text
        scheme := scheme
        host := rest.take (hostSize scheme.length portEnd)
        port := addressPort text scheme.length portEnd }) := by
  have whole : text = scheme ++ ("://".toList ++ rest) := by rw [splits.1, List.append_assoc]
  have schemePart : substr text 0 scheme.length = some scheme := by
    have begins : substr text 0 scheme.length = some (text.take scheme.length) :=
      @substr_append _ [] text scheme.length
    have cut : text.take scheme.length = scheme := by rw [whole, List.take_left]
    rw [begins, cut]
  have hostPart : substr text (scheme.length + 3) (hostSize scheme.length portEnd) =
      some (rest.take (hostSize scheme.length portEnd)) := by
    rw [splits.1, show scheme.length + 3 = (scheme ++ "://".toList).length by simp]
    exact substr_append _
  rw [makeAddress, splits.findFirstOf]
  simp only [last, schemePart, hostPart]

/-- Without a colon in the rest, the rest is the host: the size of the host wraps to more than there
    is. -/
theorem makeAddress_of_no_colon (splits : Splits text scheme rest) (noColon : ':' ∉ rest)
    (fits : text.length < 2 ^ 63) :
    makeAddress text addr = .ok (true,
      { address := text
        scheme := scheme
        host := rest
        port := 0 }) := by
  have last : findLastOf ":".toList text = some scheme.length := by
    have separated : text = scheme ++ ':' :: ("//".toList ++ rest) := by
      rw [splits.1, List.append_assoc]
      rfl
    rw [separated]
    exact findLastOf_split (clear_colon_iff.mpr (by simp [noColon])) (by decide)
  have size := splits.length_eq
  have host : hostSize scheme.length (some scheme.length) = 2 ^ 64 - 3 := by
    rw [hostSize, sub_of_le (by omega) (le_refl _), Nat.sub_self]
    rfl
  have port : addressPort text scheme.length (some scheme.length) = 0 := by
    have short : ¬scheme.length + 3 ≤ scheme.length := by omega
    simp [addressPort, Option.filter, short]
  rw [splits.makeAddress_eq last, host, port, List.take_of_length_le (by omega)]

/-- With a colon in the rest, the host ends at the last one and the port is behind it. -/
theorem makeAddress_of_colon (splits : Splits text scheme (host ++ ':' :: tail))
    (noColon : ':' ∉ tail) (fits : text.length < 2 ^ 63) :
    makeAddress text addr = .ok (true,
      { address := text
        scheme := scheme
        host := host
        port := (scanDecimal tail).getD 0 }) := by
  have whole : text = (scheme ++ "://".toList ++ host) ++ ':' :: tail := by
    rw [splits.1, List.append_assoc, List.append_assoc, List.append_assoc]
  have before : (scheme ++ "://".toList ++ host).length = scheme.length + 3 + host.length := by
    rw [List.length_append, List.length_append]
    rfl
  have last : findLastOf ":".toList text = some (scheme.length + 3 + host.length) := by
    rw [whole, ← before]
    exact findLastOf_split (clear_colon_iff.mpr noColon) (by decide)
  have size : text.length = scheme.length + 3 + host.length + (tail.length + 1) := by
    rw [whole, List.length_append, before, List.length_cons]
  have hostLength : hostSize scheme.length (some (scheme.length + 3 + host.length)) =
      host.length := by
    have behindScheme : sub (scheme.length + 3 + host.length) scheme.length = 3 + host.length := by
      rw [sub_of_le (by omega) (by omega)]
      omega
    rw [hostSize, behindScheme, sub_of_le (by omega) (by omega), Nat.add_sub_cancel_left]
  have behind : text.drop (scheme.length + 3 + host.length + 1) = tail := by
    rw [whole, ← before, ← List.drop_drop, List.drop_left]
    rfl
  have port : addressPort text scheme.length (some (scheme.length + 3 + host.length)) =
      (scanDecimal tail).getD 0 := by
    simp [addressPort, Option.filter, behind]
  rw [splits.makeAddress_eq last, hostLength, port, List.take_left]

end Splits

/-! ### What is parsed right -/

/-- `make_address` returns, and accepts exactly addresses; of an address it finds the scheme and the
    host, which is the rest or what is before the last colon of the rest. -/
def ParsesRight (text : List Char) (addr : ChannelAddress) : Prop :=
  ∃ accepted after, makeAddress text addr = .ok (accepted, after) ∧
    (accepted = true ↔ ∃ scheme rest, Splits text scheme rest) ∧
    ∀ scheme rest, Splits text scheme rest → after.scheme = scheme ∧
      (':' ∉ rest → after.host = rest) ∧
      ∀ host tail, rest = host ++ ':' :: tail → ':' ∉ tail → after.host = host

/-- The first colon or slash, if there is one, begins `://`. -/
def WellSeparated (text : List Char) : Prop :=
  ∀ before sep behind, text = before ++ sep :: behind → sep = ':' ∨ sep = '/' → ':' ∉ before →
    '/' ∉ before → ∃ rest, sep :: behind = "://".toList ++ rest

/-- A string with a last colon. -/
theorem exists_last_colon : ∀ {text : List Char}, ':' ∈ text →
    ∃ host tail, text = host ++ ':' :: tail ∧ ':' ∉ tail
  | char :: text, member => by
      by_cases later : ':' ∈ text
      · obtain ⟨host, tail, rfl, noColon⟩ := exists_last_colon later
        exact ⟨char :: host, tail, rfl, noColon⟩
      · rcases List.mem_cons.mp member with rfl | later'
        · exact ⟨[], text, rfl, later⟩
        · exact absurd later' later

/-- Every address is parsed right. -/
theorem Splits.parsed (splits : Splits text scheme rest) (fits : text.length < 2 ^ 63)
    {accepted : Bool} {after : ChannelAddress}
    (parsed : makeAddress text addr = .ok (accepted, after)) :
    accepted = true ∧ after.scheme = scheme ∧ (':' ∉ rest → after.host = rest) ∧
      ∀ host tail, rest = host ++ ':' :: tail → ':' ∉ tail → after.host = host := by
  by_cases colon : ':' ∈ rest
  · have ends : ∀ host tail, rest = host ++ ':' :: tail → ':' ∉ tail →
        accepted = true ∧ after.scheme = scheme ∧ after.host = host := by
      rintro host tail rfl noColon
      rw [splits.makeAddress_of_colon noColon fits] at parsed
      cases parsed
      exact ⟨rfl, rfl, rfl⟩
    obtain ⟨host, tail, split, noColon⟩ := exists_last_colon colon
    obtain ⟨isAccepted, isScheme, -⟩ := ends host tail split noColon
    exact ⟨isAccepted, isScheme, fun none => absurd colon none, fun host tail split noColon =>
      (ends host tail split noColon).2.2⟩
  · rw [splits.makeAddress_of_no_colon colon fits] at parsed
    cases parsed
    refine ⟨rfl, rfl, fun _ => rfl, ?_⟩
    rintro host tail rfl -
    exact absurd (List.mem_append_right host List.mem_cons_self) colon

/-- A string with a colon or a slash is accepted, if parsing returns. -/
theorem accepted_of_separator {before behind : List Char} {sep : Char}
    (isSep : sep = ':' ∨ sep = '/') (noColon : ':' ∉ before) (noSlash : '/' ∉ before)
    {accepted : Bool} {after : ChannelAddress}
    (parsed : makeAddress (before ++ sep :: behind) addr = .ok (accepted, after)) :
    accepted = true := by
  rw [makeAddress,
    findFirstOf_split (clear_separators_iff.mpr ⟨noColon, noSlash⟩) (mem_separators_iff.mpr isSep)]
    at parsed
  dsimp only at parsed
  split at parsed
  · cases parsed
    rfl
  · cases parsed

/-- `make_address` is right about a string exactly if its first colon or slash, where it has one,
    begins `://`. -/
theorem parsesRight_iff (text : CString) (addr : ChannelAddress) :
    ParsesRight text.chars addr ↔ WellSeparated text.chars := by
  constructor
  · rintro ⟨accepted, after, parsed, accepts, -⟩ before sep behind split isSep noColon noSlash
    rw [split] at parsed accepts
    obtain ⟨scheme, rest, isSplit⟩ :=
      accepts.mp (accepted_of_separator isSep noColon noSlash parsed)
    -- both searches end at the same place
    have place := isSplit.findFirstOf
    rw [findFirstOf_split (clear_separators_iff.mpr ⟨noColon, noSlash⟩)
      (mem_separators_iff.mpr isSep)] at place
    have parts : before ++ sep :: behind = scheme ++ ("://".toList ++ rest) := by
      rw [isSplit.1, List.append_assoc]
    exact ⟨rest, (List.append_inj parts (Option.some.inj place)).2⟩
  · intro separated
    cases found : findFirstOf text.chars "://".toList with
    | none =>
        have clear := findFirstOf_eq_none_iff.mp found
        have unsplit : ∀ scheme rest, ¬Splits text.chars scheme rest := by
          intro scheme rest splits
          rw [splits.findFirstOf] at found
          cases found
        exact ⟨false, _, makeAddress_of_clear clear, by simp [unsplit], fun scheme rest splits =>
          absurd splits (unsplit scheme rest)⟩
    | some place =>
        obtain ⟨before, sep, behind, split, clear, isSep⟩ := exists_split_of_findFirstOf found
        obtain ⟨noColon, noSlash⟩ := clear_separators_iff.mp clear
        obtain ⟨rest, begins⟩ :=
          separated before sep behind split (mem_separators_iff.mp isSep) noColon noSlash
        have splits : Splits text.chars before rest :=
          ⟨by rw [split, begins, List.append_assoc], noColon, noSlash⟩
        have parsed := @Splits.makeAddress_eq _ _ _ addr _ splits rfl
        exact ⟨true, _, parsed, iff_of_true rfl ⟨before, rest, splits⟩, fun scheme rest splits =>
          (splits.parsed (text.fits.trans (by decide)) parsed).2⟩

/-- Behind the colon of `a:b` there are no three characters. -/
theorem short_address_throws : ¬∀ (text : CString) (addr : ChannelAddress),
    ParsesRight text.chars addr := by
  intro claimed
  obtain ⟨accepted, after, parsed, -⟩ := claimed ⟨"a:b".toList, by decide, by decide⟩ {}
  have thrown : makeAddress "a:b".toList {} = .error .outOfRange := by decide
  rw [thrown] at parsed
  cases parsed

/-! ### Printing -/

/-- What is printed is parsed back. -/
def PrintsRight (scheme host : List Char) (port : Int) : Prop :=
  ∃ after, makeAddress (makeAddressOf scheme host port).address {} = .ok (true, after) ∧
    after.scheme = scheme ∧ after.host = host ∧ after.port = port

instance (scheme host : List Char) (port : Int) : Decidable (PrintsRight scheme host port) :=
  match parsed : makeAddress (makeAddressOf scheme host port).address {} with
  | .ok (true, after) =>
      decidable_of_iff (after.scheme = scheme ∧ after.host = host ∧ after.port = port)
        ⟨fun same => ⟨after, parsed, same⟩, fun ⟨_, parsed', same⟩ => by
          cases parsed.symm.trans parsed'
          exact same⟩
  | .ok (false, _) => .isFalse fun ⟨_, parsed', _⟩ => by cases parsed.symm.trans parsed'
  | .error _ => .isFalse fun ⟨_, parsed', _⟩ => by cases parsed.symm.trans parsed'

theorem printDecimal_noColon (value : Int) : ':' ∉ printDecimal value := by
  have noDigit : ':' ∉ Nat.toDigits 10 value.natAbs := fun member =>
    absurd (toDigits_all_isDigit value.natAbs ':' member) (by decide)
  rw [printDecimal]
  split
  · simp [noDigit]
  · exact noDigit

/-- A printed port has at most five digits. -/
theorem printDecimal_length {port : Nat} (most : port ≤ 65535) :
    (printDecimal port).length ≤ 5 := by
  rw [printDecimal, if_neg (by omega), Int.natAbs_natCast,
    Nat.length_toDigits_le_iff (by decide) (by decide)]
  omega

section

variable {port : Nat}

/-- With a port the address is split at the colon before it. -/
theorem printsRight_of_port (noColon : ':' ∉ scheme) (noSlash : '/' ∉ scheme) (positive : 0 < port)
    (fits : (makeAddressOf scheme host port).address.length < 2 ^ 63) :
    PrintsRight scheme host port := by
  have splits : Splits (makeAddressOf scheme host port).address scheme
      (host ++ ':' :: printDecimal port) := by
    refine ⟨?_, noColon, noSlash⟩
    rw [makeAddressOf, if_pos (by omega), List.append_assoc, List.append_assoc]
    simp
  refine ⟨_, splits.makeAddress_of_colon (printDecimal_noColon port) fits, rfl, rfl, ?_⟩
  rw [scanDecimal_printDecimal, Option.getD_some]

/-- Without a port the address ends with the host. -/
theorem splits_of_no_port (noColon : ':' ∉ scheme) (noSlash : '/' ∉ scheme) :
    Splits (makeAddressOf scheme host 0).address scheme host := by
  refine ⟨?_, noColon, noSlash⟩
  rw [makeAddressOf, if_neg (by decide), List.append_nil]

end

/-- An address is parsed back as it was printed exactly if it has a port or no colon in its host. -/
theorem printsRight_iff (scheme host : CString) (port : Nat) (most : port ≤ 65535)
    (noColon : ':' ∉ scheme.chars) (noSlash : '/' ∉ scheme.chars) :
    PrintsRight scheme.chars host.chars port ↔ 0 < port ∨ ':' ∉ host.chars := by
  have schemeFits := scheme.fits
  have hostFits := host.fits
  rcases Nat.eq_zero_or_pos port with rfl | positive
  · have splits : Splits (makeAddressOf scheme.chars host.chars 0).address scheme.chars
        host.chars :=
      splits_of_no_port noColon noSlash
    have fits : (makeAddressOf scheme.chars host.chars 0).address.length < 2 ^ 63 := by
      rw [splits.length_eq]
      omega
    constructor
    · rintro ⟨after, parsed, -, isHost, -⟩
      refine .inr fun colon => ?_
      obtain ⟨start, tail, split, noColonBehind⟩ := exists_last_colon colon
      have cut := (splits.parsed fits parsed).2.2.2 start tail split noColonBehind
      rw [isHost, split] at cut
      have longer := congrArg List.length cut
      simp at longer
    · rintro (positive | noColonIn)
      · exact absurd positive (Nat.lt_irrefl 0)
      · exact ⟨_, splits.makeAddress_of_no_colon noColonIn fits, rfl, rfl, rfl⟩
  · have short := printDecimal_length most
    have fits : (makeAddressOf scheme.chars host.chars port).address.length < 2 ^ 63 := by
      simp [makeAddressOf, positive]
      omega
    exact iff_of_true (printsRight_of_port noColon noSlash positive fits) (.inl positive)

/-- An IPv6 literal with a port. -/
theorem printsRight_iff_ipv6 : PrintsRight "ipv6".toList "::1".toList (8123 : Nat) :=
  (printsRight_iff ⟨"ipv6".toList, by decide, by decide⟩ ⟨"::1".toList, by decide, by decide⟩ 8123
    (by decide)
    (by decide) (by decide)).mpr (.inl (by decide))

/-- A path with a colon in it, which has no port. -/
theorem path_with_colon_cut : ¬∀ (scheme host : CString) (port : Nat), scheme.chars ≠ [] →
    host.chars ≠ [] →
    port ≤ 65535 → ':' ∉ scheme.chars → '/' ∉ scheme.chars →
    PrintsRight scheme.chars host.chars port := by
  intro claimed
  have printed :=
    claimed ⟨"unix".toList, by decide, by decide⟩ ⟨"/tmp/a:b".toList, by decide, by decide⟩ 0
    (by decide) (by decide) (by decide) (by decide) (by decide)
  revert printed
  decide

end LibAtbus.Channel
