import TreePattern.Text.Category

namespace TreePattern.CharSet

def whiteSpace : CharSet := .ofTable ["9-d 20 85 a0 1680 2000-200a 2028-2029 202f 205f 3000"]

def variationSelector : CharSet := .ofTable ["180b-180d 180f fe00-fe0f e0100-e01ef"]

def otherDefaultIgnorable : CharSet := .ofTable
  ["34f 115f-1160 17b4-17b5 2065 3164 ffa0 fff0-fff8 e0000 e0002-e001f e0080-e00ff e01f0-e0fff"]

def shownFormat : CharSet := .ofTable
  ["600-605 6dd 70f 890-891 8e2 fff9-fffb 110bd 110cd 13430-1343f"]

/-- What is left out where it cannot be shown. -/
def defaultIgnorable : CharSet :=
  diff (unions [otherDefaultIgnorable, Category.format.set, variationSelector]) shownFormat

def noncharacter : CharSet := .ofTable
  ["fdd0-fdef fffe-ffff 1fffe-1ffff 2fffe-2ffff 3fffe-3ffff 4fffe-4ffff 5fffe-5ffff 6fffe-6ffff",
   "7fffe-7ffff 8fffe-8ffff 9fffe-9ffff afffe-affff bfffe-bffff cfffe-cffff dfffe-dffff",
   "efffe-effff ffffe-fffff 10fffe-10ffff"]

def deprecated : CharSet := .ofTable ["149 673 f77 f79 17a3-17a4 206a-206f 2329-232a e0001"]

end TreePattern.CharSet
