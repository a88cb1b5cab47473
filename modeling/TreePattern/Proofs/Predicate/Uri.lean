import TreePattern.Predicate.Uri
import TreePattern.Proofs.Text.Cut

namespace TreePattern.Uri

variable {u : Uri} {c : Char} {cs : List Char} {n : Nat}

def SchemeName (cs : List Char) : Prop :=
  ∃ c rest, cs = c :: rest ∧ c.isAlpha ∧ ∀ d ∈ rest, d.isAlphanum ∨ d ∈ ['+', '-', '.']

/-- Digits, behind a plus sign or none, of a number that has 16 bits. -/
def Denotes (cs : List Char) (n : Nat) : Prop :=
  ∃ digits, (cs = digits ∨ cs = '+' :: digits) ∧ digits ≠ [] ∧ (∀ c ∈ digits, c.isDigit) ∧
    Nat.ofDigitChars 10 digits 0 = n ∧ n < 65536

/-- What may follow a host. -/
inductive PortPart (u : Uri) : List Char → Prop
  | absent : PortPart u []
  | blank : PortPart u [':']
  | number {cs : List Char} {n : Nat} : Denotes cs n → u.lowPort ≤ n → n ≤ u.highPort →
      PortPart u (':' :: cs)

inductive Host : List Char → Prop
  | bracketed {cs : List Char} : ']' ∉ cs → Host ('[' :: (cs ++ [']']))
  | plain {cs : List Char} : ':' ∉ cs → cs.head? ≠ some '[' → Host cs

def HostPort (u : Uri) (cs : List Char) : Prop :=
  ∃ host port, cs = host ++ port ∧ Host host ∧ u.PortPart port

/-- User information may hold any characters, and the host and port no at sign. -/
def Authority (u : Uri) (cs : List Char) : Prop :=
  ∃ hostPort, (cs = hostPort ∨ ∃ user, cs = user ++ '@' :: hostPort) ∧ '@' ∉ hostPort ∧
    u.HostPort hostPort

/-- What may follow a scheme: anything but two slashes, or these and an authority, which ends before
a path, a query or a fragment. -/
inductive Hierarchy (u : Uri) : List Char → Prop
  | bare {cs : List Char} : ¬['/', '/'] <+: cs → Hierarchy u cs
  | authority {cs tail : List Char} : u.Authority cs → (∀ c ∈ cs, c ∉ ['/', '?', '#']) →
      (∀ c ∈ tail.head?, c ∈ ['/', '?', '#']) → Hierarchy u ('/' :: '/' :: (cs ++ tail))

def Decomposes (u : Uri) (cs : List Char) : Prop :=
  ∃ scheme rest, cs = scheme ++ ':' :: rest ∧ SchemeName scheme ∧
    String.ofList scheme ∈ u.schemes ∧ u.Hierarchy rest

theorem isLetter_eq (c : Char) : isLetter c = c.isAlpha := by
  have hupper : ('A' ≤ c && c ≤ 'Z') = c.isUpper := (Bool.decide_and _ _).symm
  have hlower : ('a' ≤ c && c ≤ 'z') = c.isLower := rfl
  calc isLetter c = (c.isLower || c.isUpper) := by rw [isLetter, hupper, hlower]
    _ = c.isAlpha := Bool.or_comm _ _

theorem isDigit_eq (c : Char) : isDigit c = c.isDigit := rfl

theorem isScheme_iff : isScheme cs = true ↔ SchemeName cs := by
  cases cs with
  | nil => simp [isScheme, SchemeName]
  | cons c cs =>
    have hrest (d : Char) : (isLetter d || isDigit d || d == '+' || d == '-' || d == '.') = true ↔
        d.isAlphanum = true ∨ d ∈ ['+', '-', '.'] := by
      simp [isLetter_eq, isDigit_eq, Char.isAlphanum, or_assoc]
    rw [isScheme, Bool.and_eq_true, isLetter_eq, List.all_eq_true]
    simp only [hrest]
    constructor
    · rintro ⟨hc, hcs⟩
      exact ⟨c, cs, rfl, hc, hcs⟩
    · rintro ⟨_, _, h, hc, hcs⟩
      cases h
      exact ⟨hc, hcs⟩

theorem SchemeName.colon_not_mem (h : SchemeName cs) : ':' ∉ cs := by
  obtain ⟨c, rest, rfl, hc, hrest⟩ := h
  rw [List.mem_cons, not_or]
  constructor
  · rintro rfl
    cases hc
  · intro hmem
    rcases hrest _ hmem with h | h
    · cases h
    · simp at h

def number? (digits : List Char) : Option Nat :=
  if digits = [] ∨ ¬digits.all isDigit then none
  else if Nat.ofDigitChars 10 digits 0 < 65536 then some (Nat.ofDigitChars 10 digits 0) else none

theorem number?_eq_some_iff {digits : List Char} : number? digits = some n ↔
    digits ≠ [] ∧ (∀ c ∈ digits, c.isDigit) ∧ Nat.ofDigitChars 10 digits 0 = n ∧ n < 65536 := by
  unfold number?
  split
  · next h =>
    rw [List.all_eq_true] at h
    constructor
    · intro h'
      cases h'
    · rintro ⟨hne, hdigits, -⟩
      exact (h.elim hne (· hdigits)).elim
  · next h =>
    obtain ⟨hne, hdigits⟩ := not_or.mp h
    rw [not_not, List.all_eq_true] at hdigits
    split
    · next hlt =>
      rw [Option.some.injEq]
      constructor
      · rintro rfl
        exact ⟨hne, hdigits, rfl, hlt⟩
      · rintro ⟨-, -, hn, -⟩
        exact hn
    · next hlt =>
      constructor
      · intro h'
        cases h'
      · rintro ⟨-, -, rfl, hn⟩
        exact absurd hn hlt

theorem port?_eq_some_iff : port? cs = some n ↔ Denotes cs n := by
  have hplain (h : ∀ ds, cs ≠ '+' :: ds) : port? cs = number? cs := by
    unfold port?
    split
    · next ds => exact absurd rfl (h ds)
    · rfl
  by_cases hplus : ∃ ds, cs = '+' :: ds
  · obtain ⟨ds, rfl⟩ := hplus
    have hport : port? ('+' :: ds) = number? ds := rfl
    rw [hport, number?_eq_some_iff]
    constructor
    · exact fun h ↦ ⟨ds, .inr rfl, h⟩
    · rintro ⟨digits, rfl | h, hdigits⟩
      · cases hdigits.2.1 '+' List.mem_cons_self
      · cases h
        exact hdigits
  · have hplus : ∀ ds, cs ≠ '+' :: ds := fun ds h ↦ hplus ⟨ds, h⟩
    rw [hplain hplus, number?_eq_some_iff]
    constructor
    · exact fun h ↦ ⟨cs, .inl rfl, h⟩
    · rintro ⟨digits, rfl | h, hdigits⟩
      · exact hdigits
      · exact absurd h (hplus digits)

theorem Denotes.ne_nil (h : Denotes cs n) : cs ≠ [] := by
  obtain ⟨digits, rfl | rfl, hne, -⟩ := h
  · exact hne
  · exact List.cons_ne_nil _ _

theorem acceptsPort_iff : u.acceptsPort cs = true ↔ u.PortPart cs := by
  have hnumber (port : List Char) : ((port? port).any fun n ↦ u.lowPort ≤ n && n ≤ u.highPort) ↔
      ∃ n, Denotes port n ∧ u.lowPort ≤ n ∧ n ≤ u.highPort := by
    simp only [Option.any_eq_true, port?_eq_some_iff, Bool.and_eq_true, decide_eq_true_eq]
  constructor
  · intro h
    unfold acceptsPort at h
    split at h
    · exact .absent
    · exact .blank
    · obtain ⟨n, hn, hlow, hhigh⟩ := (hnumber _).mp h
      exact .number hn hlow hhigh
    · cases h
  · intro h
    cases h with
    | absent | blank => rfl
    | @number port n hn hlow hhigh =>
      obtain ⟨d, ds, rfl⟩ := List.exists_cons_of_ne_nil hn.ne_nil
      exact (hnumber _).mpr ⟨n, hn, hlow, hhigh⟩

theorem PortPart.first (h : u.PortPart cs) : ∀ c ∈ cs.head?, c = ':' := by
  cases h <;> simp

theorem Host.acceptsHost {host port : List Char} (hhost : Host host)
    (hport : ∀ c ∈ port.head?, c = ':') : u.acceptsHost (host ++ port) = u.acceptsPort port := by
  cases hhost with
  | @bracketed cs hcs =>
    have hcut : cutFirst? ']' (cs ++ ']' :: port) = some (cs, port) :=
      cutFirst?_eq_some_iff.mpr ⟨hcs, rfl⟩
    have htext : '[' :: (cs ++ [']']) ++ port = '[' :: (cs ++ ']' :: port) := by simp
    rw [htext, Uri.acceptsHost, hcut]
  | plain hcolon hbracket =>
    have hne (cs : List Char) : host ++ port ≠ '[' :: cs := by
      intro h
      cases host with
      | nil =>
        have hfirst := hport '[' (by rw [← List.nil_append port, h]; rfl)
        cases hfirst
      | cons c host => exact hbracket (congrArg some (List.cons.inj h).1)
    have hdrop : (host ++ port).dropWhile (· != ':') = port := by
      refine (span_append (fun d hd ↦ ?_) fun d hd ↦ ?_).2
      · rw [bne_iff_ne]
        rintro rfl
        exact hcolon hd
      · simp [hport d hd]
    unfold Uri.acceptsHost
    split
    · next h => exact absurd h (hne _)
    · rw [hdrop]

theorem acceptsHost_iff : u.acceptsHost cs = true ↔ u.HostPort cs := by
  constructor
  · intro h
    unfold acceptsHost at h
    split at h
    · next cs =>
      split at h
      · next host port hcut =>
        obtain ⟨hhost, rfl⟩ := cutFirst?_eq_some_iff.mp hcut
        exact ⟨_, port, by simp, .bracketed hhost, acceptsPort_iff.mp h⟩
      · cases h
    · next hne =>
      refine ⟨cs.takeWhile (· != ':'), _, List.takeWhile_append_dropWhile.symm, .plain ?_ ?_,
        acceptsPort_iff.mp h⟩
      · exact fun hc ↦ by simpa using List.mem_takeWhile_imp hc
      · cases cs with
        | nil => simp
        | cons c cs =>
          have hc : c ≠ '[' := fun he ↦ hne cs (he ▸ rfl)
          rw [List.takeWhile_cons]
          split <;> simp [hc]
  · rintro ⟨host, port, rfl, hhost, hport⟩
    rw [hhost.acceptsHost hport.first]
    exact acceptsPort_iff.mpr hport

theorem acceptsAuthority_eq {hostPort : List Char}
    (h : cs = hostPort ∨ ∃ user, cs = user ++ '@' :: hostPort) (hat : '@' ∉ hostPort) :
    u.acceptsAuthority cs = u.acceptsHost hostPort := by
  rcases h with rfl | ⟨user, rfl⟩
  · rw [acceptsAuthority, cutLast?_eq_none_iff.mpr hat]
  · rw [acceptsAuthority, cutLast?_eq_some_iff.mpr ⟨hat, rfl⟩]

theorem acceptsAuthority_iff : u.acceptsAuthority cs = true ↔ u.Authority cs := by
  constructor
  · intro h
    unfold acceptsAuthority at h
    split at h
    · next user hostPort hcut =>
      obtain ⟨hat, rfl⟩ := cutLast?_eq_some_iff.mp hcut
      exact ⟨hostPort, .inr ⟨user, rfl⟩, hat, acceptsHost_iff.mp h⟩
    · next hcut => exact ⟨cs, .inl rfl, cutLast?_eq_none_iff.mp hcut, acceptsHost_iff.mp h⟩
  · rintro ⟨hostPort, huser, hat, h⟩
    rw [acceptsAuthority_eq huser hat]
    exact acceptsHost_iff.mpr h

theorem endsAuthority_iff (c : Char) : endsAuthority c = true ↔ c ∈ ['/', '?', '#'] := by
  simp [endsAuthority, or_assoc]

theorem not_endsAuthority_iff (c : Char) : (!endsAuthority c) = true ↔ c ∉ ['/', '?', '#'] := by
  rw [Bool.not_eq_true', ← Bool.not_eq_true, endsAuthority_iff]

theorem takeWhile_authority {authority tail : List Char}
    (hauthority : ∀ c ∈ authority, c ∉ ['/', '?', '#'])
    (htail : ∀ c ∈ tail.head?, c ∈ ['/', '?', '#']) :
    (authority ++ tail).takeWhile (fun c ↦ !endsAuthority c) = authority := by
  refine (span_append (fun c hc ↦ ?_) fun c hc ↦ ?_).1
  · exact (not_endsAuthority_iff c).mpr (hauthority c hc)
  · rw [Bool.not_eq_false', endsAuthority_iff]
    exact htail c hc

theorem hierarchy_iff : u.Hierarchy ('/' :: '/' :: cs) ↔
    u.acceptsAuthority (cs.takeWhile fun c ↦ !endsAuthority c) = true := by
  rw [acceptsAuthority_iff]
  constructor
  · generalize htext : '/' :: '/' :: cs = text
    rintro (hbare | @⟨authority, tail, h, hauthority, htail⟩)
    · exact absurd ⟨cs, htext⟩ hbare
    · cases htext
      rwa [takeWhile_authority hauthority htail]
  · intro h
    rw [← List.takeWhile_append_dropWhile (p := fun c ↦ !endsAuthority c) (l := cs)]
    refine .authority h (fun c hc ↦ ?_) fun c hc ↦ ?_
    · have hin : (!endsAuthority c) = true :=
        List.mem_takeWhile_imp (p := fun c ↦ !endsAuthority c) hc
      exact (not_endsAuthority_iff c).mp hin
    · have hstop := List.head?_dropWhile_not (fun c ↦ !endsAuthority c) cs
      rw [Option.mem_def.mp hc] at hstop
      exact (endsAuthority_iff c).mp (by simpa using hstop)

theorem acceptsText_append {scheme rest : List Char} (h : ':' ∉ scheme) :
    u.acceptsText (scheme ++ ':' :: rest) = true ↔
      SchemeName scheme ∧ String.ofList scheme ∈ u.schemes ∧ u.Hierarchy rest := by
  have hcut : cutFirst? ':' (scheme ++ ':' :: rest) = some (scheme, rest) :=
    cutFirst?_eq_some_iff.mpr ⟨h, rfl⟩
  simp only [acceptsText, hcut, Bool.and_eq_true, isScheme_iff, List.contains_iff_mem, and_assoc]
  refine and_congr_right fun _ ↦ and_congr_right fun _ ↦ ?_
  split
  · exact hierarchy_iff.symm
  · next hne => exact iff_of_true rfl (.bare fun ⟨rest, h⟩ ↦ hne rest h.symm)

theorem acceptsText_iff : u.acceptsText cs = true ↔ u.Decomposes cs := by
  constructor
  · intro h
    cases hcut : cutFirst? ':' cs with
    | none =>
      rw [acceptsText, hcut] at h
      cases h
    | some parts =>
      obtain ⟨scheme, rest⟩ := parts
      obtain ⟨hcolon, rfl⟩ := cutFirst?_eq_some_iff.mp hcut
      exact ⟨scheme, rest, rfl, (acceptsText_append hcolon).mp h⟩
  · rintro ⟨scheme, rest, rfl, h⟩
    exact (acceptsText_append h.1.colon_not_mem).mpr h

/-- A value is accepted when it is a text that comes apart into the parts of a URI with an allowed
scheme and with no port that is not allowed. -/
theorem predicate_accepts_iff (u : Uri) (v : Value) :
    u.predicate.accepts v = true ↔ ∃ s, v = .str s ∧ u.Decomposes s.toList := by
  cases v with
  | str s =>
    have haccepts : u.predicate.accepts (.str s) = u.acceptsText s.toList := rfl
    rw [haccepts, acceptsText_iff]
    simp
  | _ =>
    constructor
    · intro h
      cases h
    · rintro ⟨s, h, -⟩
      cases h

/-- The last at sign ends the user information, though there are colons and another one in it. -/
example : secure.acceptsText "https://a:@b@[::1]:+443/?@".toList = true := by decide

/-- A text with an authority in which a colon and this port stand behind the host. -/
def HasPort (scheme port cs : List Char) : Prop :=
  ∃ host authority tail, cs = scheme ++ ':' :: '/' :: '/' :: (authority ++ tail) ∧ ':' ∉ scheme ∧
    (∀ c ∈ authority, c ∉ ['/', '?', '#']) ∧ (∀ c ∈ tail.head?, c ∈ ['/', '?', '#']) ∧
    (authority = host ++ ':' :: port ∨ ∃ user, authority = user ++ '@' :: (host ++ ':' :: port)) ∧
    '@' ∉ host ++ ':' :: port ∧ Host host

theorem acceptsPort_cons_iff (h : cs ≠ []) : u.acceptsPort (':' :: cs) = true ↔
    ∃ n, Denotes cs n ∧ u.lowPort ≤ n ∧ n ≤ u.highPort := by
  rw [acceptsPort_iff]
  constructor
  · intro hport
    cases hport with
    | blank => exact absurd rfl h
    | number hn hlow hhigh => exact ⟨_, hn, hlow, hhigh⟩
  · rintro ⟨n, hn, hlow, hhigh⟩
    exact .number hn hlow hhigh

/-- Where a text has a port, it is accepted when its scheme is allowed and the port is a number in
the range: digits, or digits behind a plus sign. -/
theorem predicate_accepts_iff_of_hasPort (u : Uri) {scheme port : List Char} {s : String}
    (hne : port ≠ []) (h : HasPort scheme port s.toList) :
    u.predicate.accepts (.str s) = true ↔ SchemeName scheme ∧ String.ofList scheme ∈ u.schemes ∧
      ∃ n, Denotes port n ∧ u.lowPort ≤ n ∧ n ≤ u.highPort := by
  obtain ⟨host, authority, tail, hs, hcolon, hauthority, htail, huser, hat, hhost⟩ := h
  have haccepts : u.predicate.accepts (.str s) = u.acceptsText s.toList := rfl
  have hport : ∀ c ∈ (':' :: port).head?, c = ':' := fun c hc ↦ (Option.some.inj hc).symm
  rw [haccepts, hs, acceptsText_append hcolon, hierarchy_iff, takeWhile_authority hauthority htail,
    acceptsAuthority_eq huser hat, hhost.acceptsHost hport, acceptsPort_cons_iff hne]

theorem hasPort_signed :
    HasPort "https".toList "+443".toList "https://user@[::1]:+443/path".toList := by
  refine ⟨"[::1]".toList, "user@[::1]:+443".toList, "/path".toList, by decide, by decide,
    fun c hc ↦ ?_, fun c hc ↦ ?_, .inr ⟨"user".toList, by decide⟩, by decide,
    @Host.bracketed "::1".toList (by decide)⟩
  · have hall : "user@[::1]:+443".toList.all (fun c ↦ !endsAuthority c) = true := by decide
    exact (not_endsAuthority_iff c).mp (List.all_eq_true.mp hall c hc)
  · obtain rfl : '/' = c := Option.some.inj hc
    exact List.mem_cons_self

theorem predicate_accepts_iff_signed : "+443".toList ≠ [] ∧
    HasPort "https".toList "+443".toList "https://user@[::1]:+443/path".toList ∧
    (secure.predicate.accepts (.str "https://user@[::1]:+443/path") = true ↔
      SchemeName "https".toList ∧ String.ofList "https".toList ∈ secure.schemes ∧
        ∃ n, Denotes "+443".toList n ∧ secure.lowPort ≤ n ∧ n ≤ secure.highPort) := by
  have hne : "+443".toList ≠ [] := by decide
  exact ⟨hne, hasPort_signed, predicate_accepts_iff_of_hasPort secure hne hasPort_signed⟩

theorem accepts_signed_port :
    secure.predicate.accepts (.str "https://user@[::1]:+443/path") = true ∧
      HasPort "https".toList "+443".toList "https://user@[::1]:+443/path".toList ∧
      ¬∀ c ∈ "+443".toList, c.isDigit = true := by
  refine ⟨by decide, hasPort_signed, fun h ↦ ?_⟩
  have hplus : '+'.isDigit = true := h '+' (by decide)
  exact absurd hplus (by decide)

end TreePattern.Uri
