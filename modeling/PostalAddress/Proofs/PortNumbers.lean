import PostalAddress.Proofs.StreetTokens
import PostalAddress.Service.Settings

/-!
The port as it is written in a setting: a decimal numeral behind blanks, with a sign or without. A
numeral of a port is read as the port that it denotes. It is read in front of anything else too, so
that a text which is no numeral is taken for a port number if it begins with one.
-/

namespace PostalAddress

inductive NumeralSign where
  | absent
  | plus
  | minus

namespace NumeralSign

def text : NumeralSign → Text
  | absent => []
  | plus => ['+']
  | minus => ['-']

def isMinus : NumeralSign → Bool
  | absent | plus => false
  | minus => true

end NumeralSign

/-- A decimal numeral as it may be written, behind blanks and a sign. -/
structure Numeral where
  gap : Text
  sign : NumeralSign
  digits : Text
  blank : ∀ letter ∈ gap, isBlank letter = true
  given : digits ≠ []
  numeric : ∀ digit ∈ digits, isDigit digit = true

namespace Numeral

def text (numeral : Numeral) : Text := numeral.gap ++ (numeral.sign.text ++ numeral.digits)

def value (numeral : Numeral) : Int :=
  let magnitude := Nat.ofDigitChars 10 numeral.digits 0
  if numeral.sign.isMinus then -magnitude else magnitude

/-- The text is the numeral and something that does not go on with its digits. -/
structure Leads (numeral : Numeral) (text behind : Text) : Prop where
  parted : text = numeral.text ++ behind
  ends : ∀ letter ∈ behind.head?, isDigit letter = false

end Numeral

namespace Text

theorem read_sign_unsigned (letter : Char) (rest : Text) (noMinus : letter ≠ '-')
    (noPlus : letter ≠ '+') : readSign (letter :: rest) = (false, letter :: rest) := by
  unfold readSign
  split
  case h_1 same => exact absurd (List.cons.inj same).1 noMinus
  case h_2 same => exact absurd (List.cons.inj same).1 noPlus
  case h_3 => rfl

theorem read_sign_written (text : Text) :
    ∃ (sign : NumeralSign) (rest : Text),
      text = sign.text ++ rest ∧ readSign text = (sign.isMinus, rest) := by
  unfold readSign
  split
  case h_1 rest => exact ⟨.minus, rest, rfl, rfl⟩
  case h_2 rest => exact ⟨.plus, rest, rfl, rfl⟩
  case h_3 => exact ⟨.absent, text, rfl, rfl⟩

end Text

namespace Numeral

variable {numeral : Numeral} {text behind : Text}

theorem begins_with_digit (numeral : Numeral) :
    ∃ digit rest, numeral.digits = digit :: rest ∧ isDigit digit = true := by
  obtain ⟨digit, rest, begins⟩ := List.exists_cons_of_ne_nil numeral.given
  exact ⟨digit, rest, begins, numeral.numeric digit (by simp [begins])⟩

/-- Neither the sign nor a digit is taken for a blank in front of them. -/
theorem Leads.skip_blanks (leads : numeral.Leads text behind) :
    Text.skipBlanks text = numeral.sign.text ++ (numeral.digits ++ behind) := by
  rw [leads.parted, Numeral.text, List.append_assoc, List.append_assoc, Text.skipBlanks]
  apply Text.drop_while_append isBlank _ _ numeral.blank
  obtain ⟨digit, rest, begins, numeric⟩ := numeral.begins_with_digit
  rw [begins]
  have plus : isBlank '+' = false := by decide
  have minus : isBlank '-' = false := by decide
  cases numeral.sign <;> simp [NumeralSign.text, digit_solid digit numeric, plus, minus]

theorem Leads.read_sign (leads : numeral.Leads text behind) :
    Text.readSign (Text.skipBlanks text) = (numeral.sign.isMinus, numeral.digits ++ behind) := by
  rw [leads.skip_blanks]
  obtain ⟨digit, rest, begins, numeric⟩ := numeral.begins_with_digit
  cases numeral.sign with
  | plus => rfl
  | minus => rfl
  | absent =>
      have noMinus : digit ≠ '-' := by rintro rfl; cases numeric
      have noPlus : digit ≠ '+' := by rintro rfl; cases numeric
      rw [begins]
      exact Text.read_sign_unsigned digit (rest ++ behind) noMinus noPlus

theorem Leads.read_digits (leads : numeral.Leads text behind) :
    Text.readDigits? (Text.readSign (Text.skipBlanks text)).2 = some (numeral.digits, behind) := by
  rw [leads.read_sign]
  exact (Text.read_digits_eq_some_iff _ _ _).2
    ⟨rfl, numeral.given, numeral.numeric, leads.ends⟩

theorem Leads.leading_integer (leads : numeral.Leads text behind) :
    leadingInteger? text = some numeral.value := by
  have read := leads.read_digits
  rw [leads.read_sign] at read
  rw [leadingInteger?, leads.read_sign]
  simp only [read, Option.map_some]
  rfl

/-- A text has one numeral in front at most, as far as the text behind it goes. -/
theorem Leads.behind_unique {other : Numeral} {rest : Text}
    (leads : numeral.Leads text behind) (otherLeads : other.Leads text rest) : behind = rest := by
  have same := leads.read_digits.symm.trans otherLeads.read_digits
  exact (Prod.mk.inj (Option.some.inj same)).2

theorem exists_leads_of_integer {number : Int} (read : leadingInteger? text = some number) :
    ∃ (numeral : Numeral) (behind : Text), numeral.Leads text behind ∧ numeral.value = number := by
  obtain ⟨sign, rest, parted, signRead⟩ := Text.read_sign_written (Text.skipBlanks text)
  have found := read
  rw [leadingInteger?, signRead] at found
  obtain ⟨⟨digits, behind⟩, digitsRead, _⟩ := Option.map_eq_some_iff.1 found
  obtain ⟨same, given, numeric, ends⟩ := (Text.read_digits_eq_some_iff _ _ _).1 digitsRead
  let numeral : Numeral :=
    ⟨text.takeWhile isBlank, sign, digits, fun _ => List.mem_takeWhile_imp, given, numeric⟩
  have leads : numeral.Leads text behind := by
    constructor
    case parted =>
      calc
        text = text.takeWhile isBlank ++ text.dropWhile isBlank :=
          List.takeWhile_append_dropWhile.symm
        _ = text.takeWhile isBlank ++ (sign.text ++ (digits ++ behind)) := by
          rw [← same, ← parted]
          rfl
        _ = numeral.text ++ behind := by
          rw [Numeral.text, List.append_assoc, List.append_assoc]
    case ends => exact ends
  refine ⟨numeral, behind, leads, ?_⟩
  exact Option.some.inj (leads.leading_integer.symm.trans read)

theorem leading_integer_eq_some_iff (text : Text) (number : Int) :
    leadingInteger? text = some number ↔
      ∃ (numeral : Numeral) (behind : Text),
        numeral.Leads text behind ∧ numeral.value = number := by
  constructor
  · exact exists_leads_of_integer
  · rintro ⟨numeral, behind, leads, rfl⟩
    exact leads.leading_integer

theorem leads_itself (numeral : Numeral) : numeral.Leads numeral.text [] :=
  ⟨(List.append_nil _).symm, nofun⟩

def ofNat (number : Nat) : Numeral where
  gap := []
  sign := .absent
  digits := decimalText number
  blank := nofun
  given := Nat.toDigits_ne_nil
  numeric digit member := by
    have listed := Nat.isDigit_of_mem_toDigits (by decide) (by decide) member
    simp only [Char.isDigit, Bool.and_eq_true, decide_eq_true_eq] at listed
    simp only [isDigit, Bool.and_eq_true, decide_eq_true_eq]
    exact listed

theorem value_of_nat (number : Nat) : (ofNat number).value = number :=
  congrArg Int.ofNat (Nat.ofDigitChars_toDigits (by decide) (by decide))

end Numeral

/-- A numeral of a port and nothing else. -/
def WritesPort (text : Text) (port : Nat) : Prop :=
  port ≤ 65535 ∧ ∃ numeral : Numeral, numeral.text = text ∧ numeral.value = port

/-- A numeral of a port, and something behind it that is no digit. -/
def ExtendsPort (text : Text) : Prop :=
  ∃ (numeral : Numeral) (behind : Text) (port : Nat),
    numeral.Leads text behind ∧ behind ≠ [] ∧ numeral.value = port ∧ port ≤ 65535

theorem Numeral.text_extends_no_port (numeral : Numeral) : ¬ExtendsPort numeral.text := by
  rintro ⟨other, behind, _, leads, given, _⟩
  exact given (leads.behind_unique numeral.leads_itself)

theorem ExtendsPort.writes_no_port {text : Text} (extended : ExtendsPort text) (port : Nat) :
    ¬WritesPort text port := by
  rintro ⟨_, numeral, rfl, _⟩
  exact numeral.text_extends_no_port extended

namespace Environment

/-- A text that writes a port is read as that port, and every other text is refused. -/
structure PortReadExactly (environment : Environment) : Prop where
  accepted : ∀ port,
    environment.tcpPort = .ok port ↔ WritesPort (environment.value "PORT") port
  refused : (¬∃ port, WritesPort (environment.value "PORT") port) →
    environment.tcpPort = .error (.badPort (environment.value "PORT"))

section Given

variable (environment : Environment) (given : environment.value "PORT" ≠ [])

include given

theorem tcp_port_eq_ok_iff (port : Nat) :
    environment.tcpPort = .ok port ↔
      leadingInteger? (environment.value "PORT") = some (port : Int) ∧ port ≤ 65535 := by
  rw [tcpPort, if_pos ((environment.has_iff "PORT").2 given)]
  cases leadingInteger? (environment.value "PORT") with
  | none => simp
  | some number =>
      by_cases range : 0 ≤ number ∧ number ≤ 65535
      · simp only [if_pos range, Except.ok.injEq, Option.some.injEq]
        omega
      · simp only [if_neg range, Option.some.injEq, reduceCtorEq, false_iff]
        omega

theorem tcp_port_ok_iff_leads (port : Nat) :
    environment.tcpPort = .ok port ↔
      port ≤ 65535 ∧ ∃ (numeral : Numeral) (behind : Text),
        numeral.Leads (environment.value "PORT") behind ∧ numeral.value = port := by
  rw [environment.tcp_port_eq_ok_iff given, Numeral.leading_integer_eq_some_iff, and_comm]

theorem tcp_port_refused (unread : ∀ port, environment.tcpPort ≠ .ok port) :
    environment.tcpPort = .error (.badPort (environment.value "PORT")) := by
  rw [tcpPort, if_pos ((environment.has_iff "PORT").2 given)] at unread ⊢
  split at unread
  case h_1 number read =>
    split at unread
    case isTrue => exact absurd rfl (unread _)
    case isFalse range => rw [if_neg range]
  case h_2 => rfl

end Given

/-- A port is read where its numeral stands in front, and every other text is refused. This is exact
unless the text goes on behind the numeral. -/
theorem port_read_exactly_iff (environment : Environment)
    (given : environment.value "PORT" ≠ []) :
    (∀ port, environment.tcpPort = .ok port ↔
        port ≤ 65535 ∧ ∃ (numeral : Numeral) (behind : Text),
          numeral.Leads (environment.value "PORT") behind ∧ numeral.value = port) ∧
      ((∀ port, environment.tcpPort ≠ .ok port) →
        environment.tcpPort = .error (.badPort (environment.value "PORT"))) ∧
      (environment.PortReadExactly ↔ ¬ExtendsPort (environment.value "PORT")) := by
  have read := environment.tcp_port_ok_iff_leads given
  have refused := environment.tcp_port_refused given
  refine ⟨read, refused, ?exact, ?extended⟩
  case exact =>
    intro exactly extended
    have unwritten := extended.writes_no_port
    obtain ⟨numeral, behind, port, leads, _, value, bound⟩ := extended
    have accepted := (read port).2 ⟨bound, numeral, behind, leads, value⟩
    exact unwritten port ((exactly.accepted port).1 accepted)
  case extended =>
    intro unextended
    have accepted (port : Nat) :
        environment.tcpPort = .ok port ↔ WritesPort (environment.value "PORT") port := by
      rw [read port]
      constructor
      · rintro ⟨bound, numeral, behind, leads, value⟩
        have nothing : behind = [] := by
          by_contra more
          exact unextended ⟨numeral, behind, port, leads, more, value, bound⟩
        rw [nothing] at leads
        exact ⟨bound, numeral, by rw [leads.parted, List.append_nil], value⟩
      · rintro ⟨bound, numeral, written, value⟩
        exact ⟨bound, numeral, [], written ▸ numeral.leads_itself, value⟩
    refine ⟨accepted, fun unwritten => refused fun port isRead => ?_⟩
    exact unwritten ⟨port, (accepted port).1 isRead⟩

end Environment

/-- Zero may have a sign, and zeros and blanks in front of it. -/
theorem signed_zero_read_exactly :
    let environment : Environment := fun name =>
      if name = "PORT".toList then some "\t-00".toList else none
    environment.value "PORT" ≠ [] ∧ environment.PortReadExactly ∧ environment.tcpPort = .ok 0 := by
  intro environment
  have given : environment.value "PORT" ≠ [] := by decide
  let numeral : Numeral :=
    ⟨['\t'], .minus, ['0', '0'], List.forall_mem_singleton.2 (by decide), by decide,
      List.forall_mem_cons.2 ⟨by decide, List.forall_mem_singleton.2 (by decide)⟩⟩
  have exactly : environment.PortReadExactly :=
    (environment.port_read_exactly_iff given).2.2.2 numeral.text_extends_no_port
  exact ⟨given, exactly, (exactly.accepted 0).2 ⟨Nat.zero_le _, numeral, rfl, rfl⟩⟩

/-- What stands behind the digits of a port is not looked at. -/
theorem letters_behind_port_ignored :
    let environment : Environment := fun name =>
      if name = "PORT".toList then some "8080abc".toList else none
    environment.tcpPort = .ok 8080 ∧ (∀ port, ¬WritesPort (environment.value "PORT") port) ∧
      ¬environment.PortReadExactly := by
  intro environment
  have read : environment.tcpPort = .ok 8080 := by decide +kernel
  have extended : ExtendsPort (environment.value "PORT") := by
    refine ⟨.ofNat 8080, "abc".toList, 8080, ⟨by decide +kernel, ?_⟩, by decide,
      Numeral.value_of_nat 8080, by decide⟩
    rintro letter ⟨⟩
    decide
  refine ⟨read, extended.writes_no_port, fun exactly => ?_⟩
  exact extended.writes_no_port 8080 ((exactly.accepted 8080).1 read)

end PostalAddress
