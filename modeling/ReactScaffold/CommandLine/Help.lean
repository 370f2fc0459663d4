/-!
# Help

The text that describes the command line.
-/

namespace ReactScaffold

/-- The lines of the help text. -/
def helpLines : List String := [
  "usage: create-prtw [-h] [--framework \x7breact-vite,nextjs\x7d]",
  "                   [--router \x7bapp,pages\x7d] [--language \x7bjavascript,typescript\x7d]",
  "                   [--package-manager \x7bnpm,yarn,bun\x7d]",
  "                   [--styling \x7btailwind,shadcn,vanilla-css,none\x7d]",
  "                   [--tailwind-version \x7bv3,v4\x7d]",
  "                   [--state \x7bredux,zustand,tanstack-query,none\x7d]",
  "                   [--icons \x7blucide,react-icons,iconify,none\x7d]",
  "                   [--code-quality | --no-code-quality]",
  "                   [--testing | --no-testing] [--api-client | --no-api-client]",
  "                   [--yes] [--config CONFIG] [--save-config SAVE_CONFIG]",
  "                   [--output OUTPUT] [--dry-run] [--verbose]",
  "                   [project_name]",
  "",
  "Scaffold a React project (Vite or Next.js) with your choice of tooling",
  "",
  "positional arguments:",
  "  project_name          Name of the project directory",
  "",
  "options:",
  "  -h, --help            show this help message and exit",
  "  --framework \x7breact-vite,nextjs\x7d",
  "  --router \x7bapp,pages\x7d  Next.js only",
  "  --language \x7bjavascript,typescript\x7d",
  "  --package-manager \x7bnpm,yarn,bun\x7d",
  "  --styling \x7btailwind,shadcn,vanilla-css,none\x7d",
  "  --tailwind-version \x7bv3,v4\x7d",
  "                        Tailwind only",
  "  --state \x7bredux,zustand,tanstack-query,none\x7d",
  "  --icons \x7blucide,react-icons,iconify,none\x7d",
  "  --code-quality, --no-code-quality",
  "                        ESLint, Prettier, Husky, lint-staged and Commitlint",
  "  --testing, --no-testing",
  "                        Vitest and Testing Library",
  "  --api-client, --no-api-client",
  "                        Axios API client",
  "  --yes, -y             Do not prompt; unanswered questions take their",
  "                        defaults",
  "  --config CONFIG       Replay answers saved with --save-config",
  "  --save-config SAVE_CONFIG",
  "                        Save the answers to a JSON file",
  "  --output OUTPUT, -o OUTPUT",
  "                        Parent directory (default: .)",
  "  --dry-run             Print the plan only",
  "  --verbose, -v         Debug logging",
  "",
  "Examples:",
  "  create-prtw my-app",
  "  create-prtw my-app --framework nextjs --router pages --styling shadcn",
  "  create-prtw my-app --yes --dry-run",
  "  create-prtw --config answers.json"
]

/-- The help text. -/
def helpText : String := String.join (helpLines.map fun l => l ++ "\n")

end ReactScaffold
