/-
  ControlRoom.Network.RuleArgs
  ────────────────────────────
  **A FIREWALL RULE AS ARGUMENTS** (`internal/network/ufw.go`).

  `validate` accepts a spec field by field, and `Args` renders it.  A protocol
  is rendered together with the port, so that of a spec without a port the
  protocol is dropped: the rule handed to ufw is for every protocol.

    §1  `validate` and `Args`,
    §2  what an accepted port looks like,
    §3  which part of the arguments comes from which field,
    §4  two specs with the same arguments (`args_injective_iff`).
-/
import ControlRoom.Trail.Operations
import ControlRoom.Foundation.Pattern

namespace ControlRoom

open Foundation

/-! ## §1. The spec. -/

def digitRE : RegularExpression Char := oneOf "0123456789"

/-- `\d{1,5}`. -/
def portNumberRE : RegularExpression Char := digitRE * (1 + digitRE) ^ 4

/-- `\d{1,5}(:\d{1,5})?`. -/
def portRangeRE : RegularExpression Char := portNumberRE * (1 + .char ':' * portNumberRE)

/-- `portRE`. -/
def portRE : RegularExpression Char := portRangeRE * (.char ',' * portRangeRE).star

/-- `cidrRE`. -/
def cidrRE : RegularExpression Char :=
  let c := oneOf "0123456789abcdefABCDEF.:"
  c * c.star * (1 + .char '/' * digitRE * (1 + digitRE) ^ 2)

/-- `commentRE`. -/
def commentRE : List (Repeat Char) :=
  [⟨fun c => c.isAlphanum || c ∈ [' ', '_', '.', '-', ':'], 1, some 64, true⟩]

namespace AddRuleSpec

/-- `AddRuleSpec.validate`; the texts of two errors quote a field (`%q`). -/
def validate (quote : String → String) (a : AddRuleSpec) : Except String Unit :=
  if a.action ∉ ["allow", "deny", "reject", "limit"] then
    .error "action must be one of allow/deny/reject/limit"
  else if a.port ≠ "" ∧ portRE.rmatch a.port.toList = false then
    .error ("invalid port spec " ++ quote a.port)
  else if a.protocol ≠ "" ∧ a.protocol ≠ "tcp" ∧ a.protocol ≠ "udp" then
    .error "protocol must be tcp or udp"
  else if a.from ≠ "" ∧ cidrRE.rmatch a.from.toList = false then
    .error ("invalid from address " ++ quote a.from)
  else if a.comment ≠ "" ∧ Repeat.run commentRE a.comment.toList = none then
    .error "invalid comment"
  else .ok ()

/-- `AddRuleSpec.Args`. -/
def args (a : AddRuleSpec) : List String :=
  let args := [a.action]
  let args := if a.from ≠ "" then args ++ ["from", a.from, "to", "any"] else args
  let args := if a.port ≠ "" then
      let port := if a.protocol ≠ "" then a.port ++ "/" ++ a.protocol else a.port
      if a.from ≠ "" then args ++ ["port", port] else args ++ [port]
    else args
  if a.comment ≠ "" then args ++ ["comment", a.comment] else args

/-- The command of `AddRule`: nothing runs for a spec that is not accepted. -/
def addRuleCommand (quote : String → String) (a : AddRuleSpec) : Except String (List String) :=
  (a.validate quote).map fun _ => ["sudo", "-n", "ufw"] ++ a.args

end AddRuleSpec

/-! ## §2. Ports. -/

/-- All characters of the expression are of the class. -/
def Over (p : Char → Bool) : RegularExpression Char → Bool
  | .zero => true
  | .epsilon => true
  | .char c => p c
  | .plus P Q => Over p P && Over p Q
  | .comp P Q => Over p P && Over p Q
  | .star P => Over p P

/-- So are those of a match. -/
theorem forall_of_matches {p : Char → Bool} (r : RegularExpression Char) (hr : Over p r = true)
    {x : List Char} (hx : x ∈ r.matches') : ∀ c ∈ x, p c = true := by
  induction r generalizing x with
  | zero => exact absurd hx (Language.notMem_zero x)
  | epsilon =>
      obtain rfl := (Language.mem_one x).mp hx
      simp
  | char c =>
      obtain rfl : x = [c] := hx
      exact List.forall_mem_singleton.mpr hr
  | plus P Q ihP ihQ =>
      obtain ⟨hP, hQ⟩ := Bool.and_eq_true_iff.mp hr
      rcases (Language.mem_add _ _ x).mp hx with hx | hx
      · exact ihP hP hx
      · exact ihQ hQ hx
  | comp P Q ihP ihQ =>
      obtain ⟨hP, hQ⟩ := Bool.and_eq_true_iff.mp hr
      obtain ⟨a, ha, b, hb, rfl⟩ := Language.mem_mul.mp hx
      exact List.forall_mem_append.mpr ⟨ihP hP ha, ihQ hQ hb⟩
  | star P ih =>
      obtain ⟨parts, rfl, hparts⟩ := Language.mem_kstar.mp hx
      intro c hc
      obtain ⟨part, hpart, hc⟩ := List.mem_flatten.mp hc
      exact ih hr (hparts part hpart) c hc

/-- A port starts with a digit and has no slash. -/
theorem portRE_match {x : List Char} (h : portRE.rmatch x = true) :
    (∃ d rest, x = d :: rest ∧ d.isDigit = true) ∧ '/' ∉ x := by
  have hx : x ∈ portRE.matches' := (RegularExpression.rmatch_iff_matches' portRE x).mp h
  constructor
  · obtain ⟨_, hrange, _, _, rfl⟩ := Language.mem_mul.mp hx
    obtain ⟨_, hnumber, _, _, rfl⟩ := Language.mem_mul.mp hrange
    obtain ⟨_, hdigit, _, _, rfl⟩ := Language.mem_mul.mp hnumber
    obtain ⟨d, hd, rfl⟩ := mem_oneOf.mp hdigit
    refine ⟨d, _, rfl, ?_⟩
    have hall : ∀ c ∈ "0123456789".toList, c.isDigit = true := by decide
    exact hall d hd
  · intro hslash
    have hclass := forall_of_matches (p := (· ≠ '/')) portRE (by decide) hx '/' hslash
    exact absurd hclass (by decide)

/-! ## §3. The parts of the arguments. -/

namespace AddRuleSpec

/-- An accepted spec, as far as its rendering depends on it. -/
structure Accepted (a : AddRuleSpec) : Prop where
  port : a.port ≠ "" → portRE.rmatch a.port.toList = true
  protocol : a.protocol ∈ ["", "tcp", "udp"]

theorem accepted_of_validate {quote : String → String} {a : AddRuleSpec}
    (h : a.validate quote = .ok ()) : a.Accepted := by
  unfold validate at h
  split at h
  · cases h
  split at h
  · cases h
  next hport =>
  split at h
  · cases h
  next hprotocol =>
  constructor
  · intro hne
    by_contra hno
    exact hport ⟨hne, Bool.eq_false_iff.mpr hno⟩
  · simp only [List.mem_cons, List.not_mem_nil, or_false]
    tauto

def fromArgs (a : AddRuleSpec) : List String :=
  if a.from ≠ "" then ["from", a.from, "to", "any"] else []

/-- The port with its protocol. -/
def portText (a : AddRuleSpec) : String :=
  if a.protocol ≠ "" then a.port ++ "/" ++ a.protocol else a.port

def portArgs (a : AddRuleSpec) : List String :=
  if a.port = "" then [] else if a.from ≠ "" then ["port", a.portText] else [a.portText]

def commentArgs (a : AddRuleSpec) : List String :=
  if a.comment ≠ "" then ["comment", a.comment] else []

theorem args_eq (a : AddRuleSpec) :
    a.args = a.action :: (a.fromArgs ++ (a.portArgs ++ a.commentArgs)) := by
  unfold args fromArgs portArgs commentArgs portText
  by_cases hfrom : a.from = "" <;> by_cases hport : a.port = "" <;>
    by_cases hcomment : a.comment = "" <;> simp [hfrom, hport, hcomment]

variable {a b : AddRuleSpec}

/-- The protocol behind a port. -/
def protocolSuffix (a : AddRuleSpec) : List Char :=
  if a.protocol = "" then [] else '/' :: a.protocol.toList

theorem portText_toList (a : AddRuleSpec) :
    a.portText.toList = a.port.toList ++ a.protocolSuffix := by
  unfold portText protocolSuffix
  by_cases h : a.protocol = ""
  · simp [h]
  · simp [h]

/-- The text of a port is no keyword. -/
theorem portText_ne (ha : a.Accepted) (hport : a.port ≠ "") {word : String}
    (hword : ∀ d ∈ word.toList.head?, d.isDigit = false) : a.portText ≠ word := by
  obtain ⟨⟨d, rest, hd, hdigit⟩, -⟩ := portRE_match (ha.port hport)
  rintro rfl
  rw [portText_toList, hd] at hword
  exact absurd hdigit (by rw [hword d rfl]; decide)

/-- The port is what stands before the slash. -/
theorem takeWhile_portText (ha : a.Accepted) (hport : a.port ≠ "") :
    a.portText.toList.takeWhile (· ≠ '/') = a.port.toList := by
  have hslash := (portRE_match (ha.port hport)).2
  have hall : ∀ c ∈ a.port.toList, decide (c ≠ '/') = true := by
    intro c hc
    rw [decide_eq_true_eq]
    rintro rfl
    exact hslash hc
  rw [portText_toList, List.takeWhile_append_of_pos hall]
  unfold protocolSuffix
  split <;> simp

/-- **The port and the protocol** are read off that text. -/
theorem portText_injective (ha : a.Accepted) (hb : b.Accepted) (hport : a.port ≠ "")
    (hport' : b.port ≠ "") (h : a.portText = b.portText) :
    a.port = b.port ∧ a.protocol = b.protocol := by
  have hports : a.port.toList = b.port.toList := by
    rw [← takeWhile_portText ha hport, ← takeWhile_portText hb hport', h]
  have hsuffix : a.protocolSuffix = b.protocolSuffix := by
    have htexts := congrArg String.toList h
    rw [portText_toList, portText_toList, hports] at htexts
    exact List.append_cancel_left htexts
  refine ⟨String.toList_inj.mp hports, ?_⟩
  unfold protocolSuffix at hsuffix
  by_cases hp : a.protocol = "" <;> by_cases hq : b.protocol = ""
  · rw [hp, hq]
  · simp [hp, hq] at hsuffix
  · simp [hp, hq] at hsuffix
  · exact String.toList_inj.mp (by simpa [hp, hq] using hsuffix)

/-- What follows the source does not start like one. -/
theorem head_portArgs_ne (ha : a.Accepted) :
    (a.portArgs ++ a.commentArgs).head? ≠ some "from" := by
  unfold portArgs commentArgs
  by_cases hport : a.port = ""
  · by_cases hcomment : a.comment = "" <;> simp [hport, hcomment]
  · have hne : a.portText ≠ "from" := portText_ne ha hport (by decide)
    by_cases hfrom : a.from = "" <;> simp [hport, hfrom, hne]

/-- The source is read off the arguments, -/
theorem from_eq_of_args (ha : a.Accepted) (hb : b.Accepted)
    (h : a.fromArgs ++ (a.portArgs ++ a.commentArgs)
      = b.fromArgs ++ (b.portArgs ++ b.commentArgs)) :
    a.from = b.from ∧ a.portArgs ++ a.commentArgs = b.portArgs ++ b.commentArgs := by
  have hnot := head_portArgs_ne ha
  have hnot' := head_portArgs_ne hb
  unfold fromArgs at h
  by_cases hfrom : a.from = "" <;> by_cases hfrom' : b.from = ""
  · simp only [hfrom, hfrom', ne_eq, not_true_eq_false, if_false, List.nil_append] at h
    exact ⟨hfrom.trans hfrom'.symm, h⟩
  · simp only [hfrom, hfrom', ne_eq, not_true_eq_false, if_false, not_false_eq_true, if_true,
      List.nil_append, List.cons_append] at h
    exact absurd (congrArg List.head? h) hnot
  · simp only [hfrom, hfrom', ne_eq, not_true_eq_false, if_false, not_false_eq_true, if_true,
      List.nil_append, List.cons_append] at h
    exact absurd (congrArg List.head? h).symm hnot'
  · simp only [hfrom, hfrom', ne_eq, not_false_eq_true, if_true, List.cons_append,
      List.nil_append, List.cons.injEq, true_and] at h
    exact h

/-- and so is the port, if there is one, -/
theorem port_eq_of_args (ha : a.Accepted) (hb : b.Accepted) (hfrom : a.from = b.from)
    (h : a.portArgs ++ a.commentArgs = b.portArgs ++ b.commentArgs) :
    (a.port = b.port ∧ (a.port ≠ "" → a.protocol = b.protocol))
      ∧ a.commentArgs = b.commentArgs := by
  have hhead : ∀ s : AddRuleSpec, s.commentArgs = [] ∨ s.commentArgs.head? = some "comment" := by
    intro s
    unfold commentArgs
    by_cases hcomment : s.comment = "" <;> simp [hcomment]
  -- the arguments of a port do not begin like those of a comment
  have hdiffer : ∀ s t : AddRuleSpec, s.Accepted → s.port ≠ "" → t.port = "" →
      s.portArgs ++ s.commentArgs ≠ t.portArgs ++ t.commentArgs := by
    intro s t hs hport hport' heq
    have hne : s.portText ≠ "comment" := portText_ne hs hport (by decide)
    have hheads := congrArg List.head? heq
    unfold portArgs at hheads
    rcases hhead t with ht | ht
    · by_cases hfrom : s.from = "" <;> simp [hport, hport', hfrom, ht] at hheads
    · by_cases hfrom : s.from = "" <;> simp [hport, hport', hfrom, ht, hne] at hheads
  by_cases hport : a.port = "" <;> by_cases hport' : b.port = ""
  · refine ⟨⟨hport.trans hport'.symm, fun hne => absurd hport hne⟩, ?_⟩
    simpa [portArgs, hport, hport'] using h
  · exact absurd h.symm (hdiffer b a hb hport' hport)
  · exact absurd h (hdiffer a b ha hport hport')
  · have hboth : a.portText = b.portText ∧ a.commentArgs = b.commentArgs := by
      unfold portArgs at h
      rw [hfrom] at h
      by_cases hsource : b.from = ""
      · simpa [hport, hport', hsource] using h
      · simpa [hport, hport', hsource] using h
    obtain ⟨hports, hprotocols⟩ := portText_injective ha hb hport hport' hboth.1
    exact ⟨⟨hports, fun _ => hprotocols⟩, hboth.2⟩

/-- and so is the comment. -/
theorem comment_eq_of_args (h : a.commentArgs = b.commentArgs) : a.comment = b.comment := by
  unfold commentArgs at h
  by_cases hcomment : a.comment = "" <;> by_cases hcomment' : b.comment = ""
  · rw [hcomment, hcomment']
  · simp [hcomment, hcomment'] at h
  · simp [hcomment, hcomment'] at h
  · simpa [hcomment, hcomment'] using h

/-! ## §4. Two specs with the same arguments. -/

/-- The specs have no port, and differ in their protocols only. -/
def ProtocolDropped (a b : AddRuleSpec) : Prop :=
  a.port = "" ∧ b = { a with protocol := b.protocol } ∧ a.protocol ≠ b.protocol

/-- **THE ARGUMENTS OF A RULE**: accepted specs with the same arguments are the same, but for the
protocol of specs without a port. -/
theorem args_injective_iff (quote : String → String) {a b : AddRuleSpec}
    (ha : a.validate quote = .ok ()) (hb : b.validate quote = .ok ()) :
    (a.args = b.args → a = b) ↔ ¬ ProtocolDropped a b := by
  have ha := accepted_of_validate ha
  have hb := accepted_of_validate hb
  constructor
  · rintro h ⟨hport, hb, hne⟩
    have hargs : a.args = b.args := by
      rw [hb]
      unfold args
      simp [hport]
    exact hne (congrArg protocol (h hargs))
  · intro h hargs
    rw [args_eq, args_eq] at hargs
    obtain ⟨haction, hrest⟩ := List.cons.inj hargs
    obtain ⟨hfrom, hrest⟩ := from_eq_of_args ha hb hrest
    obtain ⟨⟨hport, hprotocol⟩, hrest⟩ := port_eq_of_args ha hb hfrom hrest
    have hcomment := comment_eq_of_args hrest
    by_contra hne
    have hdiffer : a.protocol ≠ b.protocol := by
      intro hsame
      apply hne
      cases a
      cases b
      simp_all
    -- specs that differ differ in their protocols alone, and so have no port
    refine h ⟨?_, ?_, hdiffer⟩
    · by_contra hno
      exact hdiffer (hprotocol hno)
    · cases a
      cases b
      simp_all

/-- `tcp` from one host, and any protocol from there. -/
def hostSpec (protocol : String) : AddRuleSpec := ⟨"allow", "", protocol, "10.0.0.5", ""⟩

/-- `tcp` to one port, and any protocol to it. -/
def portSpec (protocol : String) : AddRuleSpec := ⟨"allow", "22", protocol, "", ""⟩

theorem args_injective_port : (portSpec "tcp").args ≠ (portSpec "").args := by
  intro hargs
  have hsame : portSpec "tcp" = portSpec "" :=
    (args_injective_iff id (by decide) (by decide)).mpr (fun h => absurd h.1 (by decide)) hargs
  exact absurd hsame (by decide)

/-- Of the host the protocol is dropped. -/
theorem args_injective_host :
    (hostSpec "tcp").validate id = .ok () ∧ (hostSpec "").validate id = .ok ()
      ∧ ¬ ((hostSpec "tcp").args = (hostSpec "").args → hostSpec "tcp" = hostSpec "") := by
  refine ⟨by decide, by decide, fun h => ?_⟩
  exact absurd (h (by decide)) (by decide)

end AddRuleSpec

end ControlRoom
