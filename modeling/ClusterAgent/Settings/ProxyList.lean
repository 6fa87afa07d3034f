/-!
# Changes of the proxy list

When the configured proxy list changes, the pool is moved to the new list by removing the
proxies only the old list names and adding those only the new list names. Both lists keep their
order and their repeats.
-/

namespace ClusterAgent

/-- The proxies only `next` names (in its order) and those only `prev` names (in its order). -/
def proxyDiff (prev next : List String) : List String × List String :=
  (next.filter fun p => !prev.contains p, prev.filter fun p => !next.contains p)

end ClusterAgent
