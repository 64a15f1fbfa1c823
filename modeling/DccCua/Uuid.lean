import Mathlib.Logic.Function.Basic
import Mathlib.Tactic.Common

/-! # Sample UUIDs

`Uuid::new_v4` is a stream of displayed UUIDs of which no two are the same. -/

namespace DccCua
namespace BrokerSample

/-- A UUID stream without repetitions; its first draws are well-formed UUIDs. -/
def uuid (n : Nat) : String :=
  "0f8fad5b-d9cb-469f-a165-70867728950" ++
    String.ofList (if n < 16 then [Nat.digitChar n] else List.replicate n 'f')

theorem uuid_injective : Function.Injective uuid := by
  intro m n h
  have hlist := String.ofList_injective ((String.append_right_inj _).mp h)
  have digits : ∀ i : Fin 16, ∀ j : Fin 16, Nat.digitChar i = Nat.digitChar j → i = j := by decide
  split at hlist <;> split at hlist
  · rename_i hm hn
    exact congrArg Fin.val (digits ⟨m, hm⟩ ⟨n, hn⟩ (List.cons.inj hlist).1)
  · have := congrArg List.length hlist
    simp at this
    omega
  · have := congrArg List.length hlist
    simp at this
    omega
  · simpa using congrArg List.length hlist

end BrokerSample
end DccCua
