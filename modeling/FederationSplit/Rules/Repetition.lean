namespace FederationSplit.Rules

def repeatsAfter [BEq α] (seen : List α) : List α → List α
  | [] => []
  | item :: rest =>
      if seen.contains item then item :: repeatsAfter seen rest
      else repeatsAfter (item :: seen) rest

/-- The items that occur more than once, each one time, in the order of their first occurrence. -/
def duplicates [BEq α] (items : List α) : List α :=
  items.eraseDups.filter fun item => 1 < items.count item

end FederationSplit.Rules
