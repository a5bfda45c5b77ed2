/-
This file says which session cookies and which form tokens are accepted. Both
are signed payloads, so a token is accepted exactly if it is the signature of a
payload that has not run out. What the server makes it accepts itself, for as
long as it says, and whatever the name of the user has in it.
-/

import Gyanam.Alerts
import Gyanam.Sessions
import Mathlib.Tactic.Linarith
import Mathlib.Tactic.NormNum

namespace Gyanam

open Json (CodePoint Text)

/-! ### Digests as texts -/

/-- A digit of a digest: a decimal digit or a small letter. -/
def isHexDigit (point : CodePoint) : Bool :=
  (0x30 ≤ point.val && point.val ≤ 0x39) || (0x61 ≤ point.val && point.val ≤ 0x66)

theorem isHexDigit_of_mem_toDigits {char : Char} {number : Nat}
    (member : char ∈ Nat.toDigits 16 number) : isHexDigit (Json.point char.toNat) = true := by
  have digit : ∀ digit < 16, isHexDigit (Json.point (Nat.digitChar digit).toNat) = true := by decide
  induction number using Nat.strong_induction_on with
  | _ number inductionHypothesis =>
    rw [Nat.toDigits_eq_if (by decide)] at member
    split at member
    · next small =>
      rw [List.mem_singleton.mp member]
      exact digit number small
    · next large =>
      rcases List.mem_append.mp member with earlier | last
      · exact inductionHypothesis (number / 16) (Nat.div_lt_self (by omega) (by decide)) earlier
      · rw [List.mem_singleton.mp last]
        exact digit _ (Nat.mod_lt _ (by decide))

theorem isHexDigit_of_mem_hexdigest {point : CodePoint} {digest : List UInt8}
    (member : point ∈ hexdigest digest) : isHexDigit point = true := by
  obtain ⟨octet, -, inside⟩ := List.mem_flatMap.mp member
  obtain ⟨char, listed, rfl⟩ := List.mem_map.mp inside
  rw [List.leftpad, List.mem_append] at listed
  rcases listed with zero | digit
  · rw [List.eq_of_mem_replicate zero]
    decide
  · exact isHexDigit_of_mem_toDigits digit

theorem tokenColon_notMem_hexdigest (digest : List UInt8) : tokenColon ∉ hexdigest digest := by
  intro member
  exact absurd (isHexDigit_of_mem_hexdigest member) (by decide)

theorem isAscii_hexdigest (digest : List UInt8) :
    (hexdigest digest).all (fun point => decide (point.val < 0x80)) = true := by
  rw [List.all_eq_true]
  intro point member
  have digit := isHexDigit_of_mem_hexdigest member
  simp only [isHexDigit, Bool.or_eq_true, Bool.and_eq_true, decide_eq_true_eq] at digit
  exact decide_eq_true (by omega)

theorem tokenColon_notMem_decimal (number : Int) : tokenColon ∉ Strings.decimal number := by
  intro member
  exact absurd (Strings.isDecimalMark_of_mem_decimal member) (by decide)

/-- A digest is compared with the texts in ASCII; the others raise. -/
theorem compareDigest_hexdigest {found : Text} {digest : List UInt8} {same : Bool} :
    compareDigest found (hexdigest digest) = .ok same ↔
      (found.all fun point => decide (point.val < 0x80)) = true ∧
        decide (found = hexdigest digest) = same := by
  rw [compareDigest, List.all_append, isAscii_hexdigest, Bool.and_true]
  split
  · next ascii => simp [ascii]
  · next other => simp [other]

theorem compareDigest_hexdigest_true {found : Text} {digest : List UInt8} :
    compareDigest found (hexdigest digest) = .ok true ↔ found = hexdigest digest := by
  rw [compareDigest_hexdigest, decide_eq_true_eq, and_iff_right_iff_imp]
  rintro rfl
  exact isAscii_hexdigest digest

namespace Sessions

variable (primitives : Primitives) (settings : AuthSettings) (now : Clock)

/-! ### The signer of a secret -/

/-- Who signs with a secret: the mark of a payload is its digest. -/
def signer (secret : List UInt8) : Signer CodePoint where
  separator := tokenColon
  mark payload := (Encoding.encode payload).map fun octets =>
    hexdigest (primitives.hmacSha256 secret octets)
  separator_notMem marked := by
    obtain ⟨octets, -, rfl⟩ := Option.map_eq_some_iff.mp marked
    exact tokenColon_notMem_hexdigest _

variable {primitives settings now}

theorem encoded_eq_ok {chars : Text} {octets : List UInt8} :
    encoded chars = .ok octets ↔ Encoding.encode chars = some octets := by
  rw [encoded]
  cases Encoding.encode chars <;> simp

theorem signature_eq_ok {secret : List UInt8} {payload found : Text} :
    signature primitives secret payload = .ok found ↔
      (signer primitives secret).mark payload = some found := by
  simp only [signature, Fallible.bind_eq_ok, encoded_eq_ok, signer, Option.map_eq_some_iff, pure,
    Except.pure, Except.ok.injEq]

/-- What a payload is followed by is compared with its signature: it is a token that the signer
signed. -/
theorem sign_eq_some {secret : List UInt8} {payload found : Text} :
    (signer primitives secret).sign payload = some (payload ++ tokenColon :: found) ↔
      signature primitives secret payload = .ok found := by
  rw [signature_eq_ok, Signer.sign, Option.map_eq_some_iff]
  constructor
  · rintro ⟨other, marked, same⟩
    rw [← (List.cons.inj (List.append_cancel_left same)).2]
    exact marked
  · exact fun marked => ⟨found, marked, rfl⟩

/-! ### Accepted cookies -/

/-- A cookie of a session is the signature of its payload. -/
theorem createSessionCookie_eq_ok {username cookie : Text} :
    createSessionCookie primitives settings now username = .ok cookie ↔
      ∃ secret, getSessionSecret primitives settings = .ok secret ∧
        (signer primitives secret).sign
          (sessionPayload username (Strings.decimal (now.whole + sessionMaxAge))) =
            some cookie := by
  simp only [createSessionCookie, Fallible.bind_eq_ok, signature_eq_ok, Signer.sign,
    Option.map_eq_some_iff, pure, Except.pure, Except.ok.injEq]
  rfl

/-- The token of a form is the signature of its payload. -/
theorem generateCsrfToken_eq_ok {nonce : List UInt8} {token : Text} :
    generateCsrfToken primitives settings now nonce = .ok token ↔
      ∃ secret, getSecret primitives settings = .ok secret ∧
        (signer primitives secret).sign
          (tokenPayload (hexdigest nonce) (Strings.decimal now.whole)) = some token := by
  simp only [generateCsrfToken, Fallible.bind_eq_ok, signature_eq_ok, Signer.sign,
    Option.map_eq_some_iff, pure, Except.pure, Except.ok.injEq]
  rfl

/-- What a signature is compared with. -/
theorem compareDigest_signature {secret : List UInt8} {payload found : Text} :
    (∃ expected, signature primitives secret payload = .ok expected ∧
        compareDigest found expected = .ok true) ↔
      (signer primitives secret).sign payload = some (payload ++ tokenColon :: found) := by
  rw [sign_eq_some]
  constructor
  · rintro ⟨expected, signed, same⟩
    obtain ⟨octets, encoding, rfl⟩ := Option.map_eq_some_iff.mp (signature_eq_ok.mp signed)
    rwa [compareDigest_hexdigest_true.mp same]
  · intro signed
    refine ⟨found, signed, ?_⟩
    obtain ⟨octets, encoding, rfl⟩ := Option.map_eq_some_iff.mp (signature_eq_ok.mp signed)
    exact compareDigest_hexdigest_true.mpr rfl

/-- A signed text ends in its mark. -/
theorem eq_of_sign {secret : List UInt8} {payload token : Text}
    (signed : (signer primitives secret).sign payload = some token) :
    ∃ digest, token = payload ++ tokenColon :: hexdigest digest := by
  obtain ⟨mark, marked, rfl⟩ := Option.map_eq_some_iff.mp signed
  obtain ⟨octets, -, rfl⟩ := Option.map_eq_some_iff.mp marked
  exact ⟨_, rfl⟩

/-- The cookie that a signer signed, judged by its time. -/
theorem validateSessionCookie_signed {secret : List UInt8} {token username expiryText : Text}
    {expiry : Int} (derived : getSessionSecret primitives settings = .ok secret)
    (signed : (signer primitives secret).sign (sessionPayload username expiryText) = some token)
    (clean : tokenColon ∉ expiryText) (spelled : Strings.toInt expiryText = some expiry) :
    validateSessionCookie primitives settings now (some token) =
      .ok (if now.seconds ≤ (expiry : Rat) then some username else none) := by
  obtain ⟨digest, rfl⟩ := eq_of_sign signed
  have parts : LastSeparator.rsplit tokenColon 2
      (sessionPayload username expiryText ++ tokenColon :: hexdigest digest) =
        [username, expiryText, hexdigest digest] :=
    LastSeparator.rsplit_two_eq.mpr ⟨rfl, clean, tokenColon_notMem_hexdigest digest⟩
  obtain ⟨expected, made, same⟩ := compareDigest_signature.mpr signed
  rw [validateSessionCookie]
  simp only [Option.getD_some, parts, Fallible.bind_eq_ok]
  refine ⟨secret, derived, expected, made, true, same, ?_⟩
  simp only [spelled, pure, Except.pure, reduceCtorEq, if_false, ← not_le, ite_not]

/-- Exactly these cookies are those of a user: the signature of the user's name and of a time that
has not passed. -/
theorem validateSessionCookie_eq_some {cookie : Option Text} {username : Text} :
    validateSessionCookie primitives settings now cookie = .ok (some username) ↔
      ∃ secret token expiryText expiry, getSessionSecret primitives settings = .ok secret ∧
        cookie = some token ∧
        (signer primitives secret).sign (sessionPayload username expiryText) = some token ∧
        tokenColon ∉ expiryText ∧ Strings.toInt expiryText = some expiry ∧
        now.seconds ≤ (expiry : Rat) := by
  constructor
  · intro accepted
    rw [validateSessionCookie] at accepted
    split at accepted
    · next user expiryText found parts =>
      obtain ⟨whole, clean, -⟩ := LastSeparator.rsplit_two_eq.mp parts
      simp only [Fallible.bind_eq_ok] at accepted
      obtain ⟨secret, derived, expected, signed, same, compared, judged⟩ := accepted
      cases same with
      | false => cases judged
      | true =>
        have right := compareDigest_signature.mp ⟨expected, signed, compared⟩
        rw [if_neg (by decide)] at judged
        cases spelled : Strings.toInt expiryText with
        | none =>
          rw [spelled] at judged
          cases judged
        | some expiry =>
          simp only [spelled, pure, Except.pure, Except.ok.injEq] at judged
          split_ifs at judged with late
          obtain rfl := Option.some.inj judged
          cases cookie with
          | none => simp at whole
          | some token =>
            obtain rfl : token = _ := whole
            exact ⟨secret, _, expiryText, expiry, derived, rfl, right, clean, spelled,
              not_lt.mp late⟩
    · cases accepted
  · rintro ⟨secret, token, expiryText, expiry, derived, rfl, signed, clean, spelled, early⟩
    rw [validateSessionCookie_signed derived signed clean spelled, if_pos early]

/-! ### Accepted forms -/

/-- The three parts around two separators. -/
theorem split_eq_three {separator : CodePoint} {chars front middle back : Text} :
    Strings.split separator chars = [front, middle, back] ↔
      chars = (front ++ separator :: middle) ++ separator :: back ∧ separator ∉ front ∧
        separator ∉ middle ∧ separator ∉ back := by
  constructor
  · intro parts
    have clean : ∀ part ∈ [front, middle, back], separator ∉ part := fun part member =>
      Strings.notMem_of_mem_split (parts ▸ member)
    have whole := Strings.intercalate_split separator chars
    rw [parts] at whole
    simp only [List.forall_mem_cons, List.not_mem_nil, false_imp_iff, implies_true,
      and_true] at clean
    refine ⟨?_, clean⟩
    simpa [List.intercalate] using whole.symm
  · rintro ⟨rfl, first, second, third⟩
    have whole : (List.intercalate [separator] [front, middle, back]).splitOn separator =
        [front, middle, back] :=
      List.splitOn_intercalate separator (by simp [first, second, third]) (by simp)
    rw [Strings.split_eq_splitOn]
    simpa [List.intercalate] using whole

/-- The token that a signer signed, judged by its time. -/
theorem validateCsrfToken_signed {secret : List UInt8} {token nonce timestampText : Text}
    {tokenTime : Int} (derived : getSecret primitives settings = .ok secret)
    (signed : (signer primitives secret).sign (tokenPayload nonce timestampText) = some token)
    (cleanNonce : tokenColon ∉ nonce) (cleanTime : tokenColon ∉ timestampText)
    (spelled : Strings.toInt timestampText = some tokenTime) :
    validateCsrfToken primitives settings now token =
      if now.seconds - tokenTime > (tokenMaxAge : Rat) then .error (forbidden "CSRF token expired")
      else .ok () := by
  obtain ⟨digest, rfl⟩ := eq_of_sign signed
  have parts : Strings.split tokenColon
      (tokenPayload nonce timestampText ++ tokenColon :: hexdigest digest) =
        [nonce, timestampText, hexdigest digest] :=
    split_eq_three.mpr ⟨rfl, cleanNonce, cleanTime, tokenColon_notMem_hexdigest digest⟩
  obtain ⟨expected, made, same⟩ := compareDigest_signature.mpr signed
  rw [validateCsrfToken, if_neg (by simp), parts]
  simp only [derived, made, same, bind, Except.bind, spelled]
  rfl

/-- Exactly these tokens of forms pass: the signature of a nonce and of a time that is not long
ago. -/
theorem validateCsrfToken_eq_ok {token : Text} :
    validateCsrfToken primitives settings now token = .ok () ↔
      ∃ secret nonce timestampText tokenTime, getSecret primitives settings = .ok secret ∧
        (signer primitives secret).sign (tokenPayload nonce timestampText) = some token ∧
        tokenColon ∉ nonce ∧ tokenColon ∉ timestampText ∧
        Strings.toInt timestampText = some tokenTime ∧
        now.seconds - tokenTime ≤ (tokenMaxAge : Rat) := by
  constructor
  · intro accepted
    rw [validateCsrfToken] at accepted
    split at accepted
    · cases accepted
    · split at accepted
      · next nonce timestampText found parts =>
        obtain ⟨rfl, cleanNonce, cleanTime, -⟩ := split_eq_three.mp parts
        simp only [Fallible.bind_eq_ok] at accepted
        obtain ⟨secret, derived, expected, signed, same, compared, judged⟩ := accepted
        cases same with
        | false => cases judged
        | true =>
          have right := compareDigest_signature.mp ⟨expected, signed, compared⟩
          rw [if_neg (by decide)] at judged
          cases spelled : Strings.toInt timestampText with
          | none =>
            rw [spelled] at judged
            cases judged
          | some tokenTime =>
            simp only [spelled] at judged
            split_ifs at judged with old
            exact ⟨secret, nonce, timestampText, tokenTime, derived, right, cleanNonce, cleanTime,
              spelled, not_lt.mp old⟩
      · cases accepted
  · rintro ⟨secret, nonce, timestampText, tokenTime, derived, signed, cleanNonce, cleanTime,
      spelled, recent⟩
    rw [validateCsrfToken_signed derived signed cleanNonce cleanTime spelled,
      if_neg (not_lt.mpr recent)]

/-! ### Round trips -/

theorem natAbs_whole_lt (now : Clock) : now.whole.natAbs < doubleLimit := by
  have positive : (0 : Rat) < now.seconds.den := by exact_mod_cast now.seconds.den_pos
  have fraction : (now.seconds.num : Rat) = now.seconds * now.seconds.den :=
    (Rat.mul_den_eq_num now.seconds).symm
  have above : (now.seconds.num : Rat) < doubleLimit * now.seconds.den := by
    rw [fraction]
    exact mul_lt_mul_of_pos_right now.finite.2 positive
  have below : -(doubleLimit * (now.seconds.den : Rat)) < now.seconds.num := by
    rw [fraction, ← neg_mul]
    exact mul_lt_mul_of_pos_right now.finite.1 positive
  have magnitude : now.seconds.num.natAbs < doubleLimit * now.seconds.den := by
    zify
    exact abs_lt.mpr ⟨by exact_mod_cast below, by exact_mod_cast above⟩
  rw [Clock.whole, Int.natAbs_tdiv, Int.natAbs_natCast]
  exact Nat.div_lt_of_lt_mul (by rwa [mul_comm] at magnitude)

/-- The whole seconds of a reading, and those some time later, are spelled by their decimal text. -/
theorem toInt_whole (now : Clock) {later : Int} (near : later.natAbs ≤ 2 ^ 16) :
    Strings.toInt (Strings.decimal (now.whole + later)) = some (now.whole + later) := by
  have small := natAbs_whole_lt now
  have room : doubleLimit + 2 ^ 16 ≤ 10 ^ Json.maxDigits := by decide +kernel
  refine Strings.toInt_decimal (lt_of_lt_of_le ?_ room)
  exact (Int.natAbs_add_le _ _).trans_lt (Nat.add_lt_add_of_lt_of_le small near)

/-- A cookie is that of its user until eight hours after it was made, and of nobody from then on. A
name may have colons in it. -/
theorem session_roundTrip {made : Clock} {username cookie : Text}
    (created : createSessionCookie primitives settings made username = .ok cookie) (now : Clock) :
    validateSessionCookie primitives settings now (some cookie) =
      .ok (if now.seconds ≤ ((made.whole + sessionMaxAge : Int) : Rat) then some username
        else none) := by
  obtain ⟨secret, derived, signed⟩ := createSessionCookie_eq_ok.mp created
  exact validateSessionCookie_signed derived signed (tokenColon_notMem_decimal _)
    (toInt_whole made (by decide))

/-- The token of a form passes until an hour after it was made. -/
theorem csrf_roundTrip {made : Clock} {nonce : List UInt8} {token : Text}
    (generated : generateCsrfToken primitives settings made nonce = .ok token) (now : Clock) :
    validateCsrfToken primitives settings now token =
      if now.seconds - made.whole > (tokenMaxAge : Rat) then
        .error (forbidden "CSRF token expired")
      else .ok () := by
  obtain ⟨secret, derived, signed⟩ := generateCsrfToken_eq_ok.mp generated
  have spelled : Strings.toInt (Strings.decimal (made.whole + 0)) = some (made.whole + 0) :=
    toInt_whole made (by decide)
  rw [add_zero] at spelled
  exact validateCsrfToken_signed derived signed (tokenColon_notMem_hexdigest nonce)
    (tokenColon_notMem_decimal _) spelled

end Sessions

end Gyanam
