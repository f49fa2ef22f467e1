import StructGen.Generation
import Mathlib.Data.List.Sort

/-!
# The default style

Initialisms are tried longest first, and those of one length in the order of their characters. This
order is linear, so a list has one ordered form, and the initialisms of Go can be written out in the
order in which they are tried.

* `ofList_eq` finds the ordered form of a list of initialisms;
* `goOrdered_apply_cases` tells what applying the initialisms of Go does to a name;
* `style_default` gives the style that settings ask for unless others are given.
-/

namespace StructGen

namespace Naming.Initialisms

/-! ### The order of initialisms -/

theorem precedes_iff {a b : String} :
    precedes a b = true ↔ b.length < a.length ∨ a.length = b.length ∧ a ≤ b := by
  simp [precedes]

theorem precedes_trans (a b c : String) (hab : precedes a b = true) (hbc : precedes b c = true) :
    precedes a c = true := by
  rw [precedes_iff] at hab hbc ⊢
  rcases hab with hab | ⟨hab, hle⟩
  · exact Or.inl (by omega)
  · rcases hbc with hbc | ⟨hbc, hle'⟩
    · exact Or.inl (by omega)
    · exact Or.inr ⟨hab.trans hbc, String.le_trans hle hle'⟩

theorem precedes_total (a b : String) : (precedes a b || precedes b a) = true := by
  rw [Bool.or_eq_true, precedes_iff, precedes_iff]
  rcases Nat.lt_trichotomy a.length b.length with hlt | heq | hlt
  · exact Or.inr (Or.inl hlt)
  · exact (String.le_total a b).imp (fun h => Or.inr ⟨heq, h⟩) fun h => Or.inr ⟨heq.symm, h⟩
  · exact Or.inl (Or.inl hlt)

theorem precedes_antisymm {a b : String} (hab : precedes a b = true) (hba : precedes b a = true) :
    a = b := by
  rw [precedes_iff] at hab hba
  rcases hab with hab | ⟨hab, hle⟩
  · omega
  · rcases hba with hba | ⟨-, hle'⟩
    · omega
    · exact String.le_antisymm hle hle'

/-- The ordered form of a list of initialisms is its only arrangement that is in order. -/
theorem ofList_eq {l ordered : List String} (horder : ordered.Pairwise (precedes · · = true))
    (hperm : l.Perm ordered) (hdups : ordered.eraseDups = ordered) : ofList l = ⟨ordered⟩ := by
  have hsort : l.mergeSort precedes = ordered :=
    List.Perm.eq_of_pairwise (fun _ _ _ _ => precedes_antisymm)
      (List.pairwise_mergeSort precedes_trans precedes_total l) horder
      ((List.mergeSort_perm l precedes).trans hperm)
  rw [ofList, hsort, hdups]

/-- The initialisms of Go in the order in which they are tried. -/
def goOrdered : Initialisms := ⟨[
  "ASCII", "HTTPS", "GUID", "HTML", "HTTP", "JSON", "SMTP", "UTF8", "UUID", "XMPP", "XSRF", "ACL",
  "API", "CPU", "CSS", "DNS", "EOF", "LHS", "QPS", "RAM", "RHS", "RPC", "SLA", "SQL", "SSH", "TCP",
  "TLS", "TTL", "UDP", "UID", "URI", "URL", "XML", "XSS", "ID", "IP", "UI", "VM"]⟩

set_option maxRecDepth 100000 in
theorem go_eq : go = goOrdered := by
  refine ofList_eq ?order ?perm ?dups
  case order => decide +kernel
  case perm => decide +kernel
  case dups => decide +kernel

/-- The initialisms of Go with their title forms. -/
def goTitled : List (String × String) := [
  ("ASCII", "Ascii"), ("HTTPS", "Https"), ("GUID", "Guid"), ("HTML", "Html"), ("HTTP", "Http"),
  ("JSON", "Json"), ("SMTP", "Smtp"), ("UTF8", "Utf8"), ("UUID", "Uuid"), ("XMPP", "Xmpp"),
  ("XSRF", "Xsrf"), ("ACL", "Acl"), ("API", "Api"), ("CPU", "Cpu"), ("CSS", "Css"),
  ("DNS", "Dns"), ("EOF", "Eof"), ("LHS", "Lhs"), ("QPS", "Qps"), ("RAM", "Ram"), ("RHS", "Rhs"),
  ("RPC", "Rpc"), ("SLA", "Sla"), ("SQL", "Sql"), ("SSH", "Ssh"), ("TCP", "Tcp"), ("TLS", "Tls"),
  ("TTL", "Ttl"), ("UDP", "Udp"), ("UID", "Uid"), ("URI", "Uri"), ("URL", "Url"), ("XML", "Xml"),
  ("XSS", "Xss"), ("ID", "Id"), ("IP", "Ip"), ("UI", "Ui"), ("VM", "Vm")]

set_option maxRecDepth 100000 in
theorem mem_goTitled : ∀ i ∈ goOrdered.ordered, (i, titleForm i) ∈ goTitled := by decide +kernel

/-- What holds of all initialisms of Go and their title forms. -/
theorem forall_of_goTitled {P : String → String → Prop} (h : ∀ q ∈ goTitled, P q.1 q.2) :
    ∀ i ∈ goOrdered.ordered, P i (titleForm i) := fun i hi => h _ (mem_goTitled i hi)

theorem titleForm_ne_empty : ∀ i ∈ goOrdered.ordered, (titleForm i).isEmpty = false :=
  forall_of_goTitled (P := fun _ title => title.isEmpty = false) (by decide +kernel)

/-- Replacing the end of a name leaves what stands before it. -/
theorem toList_replaceEnd {name ending : String} {cs : List Char} (hending : ending ≠ "")
    (h : name.toList = cs ++ ending.toList) (replacement : String) :
    (replaceEnd name ending replacement).toList = cs ++ replacement.toList := by
  have htake : name.toList.take (name.length - ending.length) = cs := by
    rw [← String.length_toList, h, ← String.length_toList, List.length_append, Nat.add_sub_cancel,
      List.take_left']
    rfl
  rw [replaceEnd, if_neg (by simpa using hending), String.toList_append, String.toList_ofList, htake]

/-- A name stays as it is, or the title form at its end is replaced by an initialism. -/
theorem goOrdered_apply_cases (name : String) : goOrdered.apply name = name ∨
    ∃ i ∈ goOrdered.ordered, ∃ cs, name.toList = cs ++ (titleForm i).toList ∧
      (goOrdered.apply name).toList = cs ++ i.toList := by
  unfold apply
  split
  · rename_i i hi
    have hmem : i ∈ goOrdered.ordered := List.mem_of_find?_eq_some hi
    have hend : (titleForm i).toList <:+ name.toList := by simpa using List.find?_some hi
    have hempty : titleForm i ≠ "" := by simpa using titleForm_ne_empty i hmem
    obtain ⟨cs, hcs⟩ := hend
    exact Or.inr ⟨i, hmem, cs, hcs.symm, toList_replaceEnd hempty hcs.symm i⟩
  · exact Or.inl rfl

end Naming.Initialisms

namespace Go

/-- The style that the default settings ask for. -/
def defaultStyle : Style where
  initialisms := .goOrdered
  types := ⟨.str "int", .str "float64", .str "interface\x7b\x7d"⟩
  comments := true
  header := false
  package := .str "hedwig"

@[simp] theorem initialisms_defaultStyle : defaultStyle.initialisms = .goOrdered := rfl

theorem style_default : Settings.default.style = .ok defaultStyle := by
  have hinitialisms : Settings.readInitialisms Settings.default.initialisms = .ok .goOrdered := by
    rw [← Naming.Initialisms.go_eq]
    rfl
  rw [Settings.style, hinitialisms]
  rfl

theorem customFormats_default : Schema.customFormats Settings.default.customFormats = .ok [] := rfl

theorem warnings_default : Settings.default.warnings = .ok [] := by decide +kernel

end Go

end StructGen
