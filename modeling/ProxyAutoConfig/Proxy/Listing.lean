/-!
# Listings

A hash table lists its keys in an order of its own, which differs from one table to the next and from
one run to the next. All that can be told beforehand is that every key comes up, and no other. The
order has to do with the keys alone: what stands under them does not change it.
-/

namespace ProxyAutoConfig

/-- **How a hash table lists its keys.** -/
structure Listing where
  arrange : List String → List String
  perm : ∀ keys, (arrange keys).Perm keys

namespace Listing

/-- Keys listed in ascending order. -/
def byKey : Listing :=
  ⟨fun keys => keys.mergeSort fun a b => a ≤ b, fun keys => List.mergeSort_perm keys _⟩

/-- One key is listed in one way. -/
theorem arrange_eq_self (order : Listing) {keys : List String} (few : keys.length ≤ 1) :
    order.arrange keys = keys := by
  have perm := order.perm keys
  match keys, few with
  | [], _ => exact List.perm_nil.mp perm
  | [key], _ => exact List.perm_singleton.mp perm

end Listing

end ProxyAutoConfig
