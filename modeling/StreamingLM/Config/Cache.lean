import StreamingLM.Schema

/-!
Settings of the key/value caches.
-/
namespace StreamingLM

/-- How a full buffer makes room: by moving the surviving tail to the front of the same storage, or
by copying it into fresh storage. -/
inductive CacheStrategy where
  | shift
  | shrink
  deriving DecidableEq, Repr

namespace CacheStrategy

def name : CacheStrategy → String
  | shift => "shift"
  | shrink => "shrink"

def ofName? (s : String) : Option CacheStrategy :=
  if s = "shift" then some shift else if s = "shrink" then some shrink else none

@[simp] theorem ofName?_name (s : CacheStrategy) : ofName? s.name = some s := by
  cases s <;> rfl

end CacheStrategy

structure CacheConfig where
  strategy : CacheStrategy := .shift

namespace CacheConfig

def reader : Reader CacheConfig := .model fun entries =>
  mk <$> Reader.withDefault (.choice CacheStrategy.ofName?) .shift "strategy" entries

def dump (c : CacheConfig) : Value := .dict [(.text "strategy", .text c.strategy.name)]

end CacheConfig
end StreamingLM
