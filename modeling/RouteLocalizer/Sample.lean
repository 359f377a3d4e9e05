/-
  SAMPLE PROJECTS: the files that the scaffolding tool leaves when it sets up an application with
  a router, in either script language.  What a pass does is best seen on them.
-/
import RouteLocalizer.Manifest.Basic
import RouteLocalizer.Store.Memory
import RouteLocalizer.Template.Examples

namespace RouteLocalizer.Sample

/-- The manifest down to the router plugin. -/
def manifestHead : List Text :=
  [
    "\x7b",
    "  \"name\": \"my-app\",",
    "  \"version\": \"0.1.0\",",
    "  \"private\": true,",
    "  \"scripts\": \x7b",
    "    \"serve\": \"vue-cli-service serve\",",
    "    \"build\": \"vue-cli-service build\"",
    "  \x7d,",
    "  \"dependencies\": \x7b",
    "    \"core-js\": \"^3.6.5\",",
    "    \"vue\": \"^2.6.11\",",
    "    \"vue-router\": \"^3.2.0\"",
    "  \x7d,",
    "  \"devDependencies\": \x7b",
    "    \"@vue/cli-plugin-router\": \"~4.5.0\","]

/-- The plugins that a typed project has besides. -/
def typedPlugins : List Text :=
  ["    \"@vue/cli-plugin-typescript\": \"~4.5.0\",", "    \"typescript\": \"~4.1.5\","]

/-- The manifest behind the router plugin. -/
def manifestTail : List Text :=
  [
    "    \"@vue/cli-service\": \"~4.5.0\",",
    "    \"vue-template-compiler\": \"^2.6.11\"",
    "  \x7d",
    "\x7d"]

/-- The manifest of a project. -/
def manifest : Script → Text
  | .javascript => Template.ofLines (manifestHead ++ manifestTail)
  | .typescript => Template.ofLines (manifestHead ++ typedPlugins ++ manifestTail)

/-- The script that starts the application. -/
def entryFile : Text :=
  Template.ofLines [
    "import Vue from 'vue'",
    "import App from './App.vue'",
    "import router from './router'",
    "",
    "Vue.config.productionTip = false",
    "",
    "new Vue(\x7b",
    "  router,",
    "  render: h => h(App)",
    "\x7d).$mount('#app')"]

/-- The router file of an untyped project. -/
def routerFile : Text :=
  Template.ofLines [
    "import Vue from 'vue'",
    "import VueRouter from 'vue-router'",
    "import Home from '../views/Home.vue'",
    "",
    "Vue.use(VueRouter)",
    "",
    "const routes = [",
    "  \x7b",
    "    path: '/',",
    "    name: 'Home',",
    "    component: Home",
    "  \x7d,",
    "  \x7b",
    "    path: '/about',",
    "    name: 'About',",
    "    component: () => import(/* webpackChunkName: \"about\" */ '../views/About.vue')",
    "  \x7d",
    "]",
    "",
    "const router = new VueRouter(\x7b",
    "  routes",
    "\x7d)",
    "",
    "export default router"]

/-- The router file of a typed project. -/
def typedRouterFile : Text :=
  Template.ofLines [
    "import Vue from 'vue'",
    "import VueRouter, \x7b RouteConfig \x7d from 'vue-router'",
    "import Home from '../views/Home.vue'",
    "",
    "Vue.use(VueRouter)",
    "",
    "const routes: Array<RouteConfig> = [",
    "  \x7b",
    "    path: '/',",
    "    name: 'Home',",
    "    component: Home",
    "  \x7d",
    "]",
    "",
    "const router = new VueRouter(\x7b",
    "  routes",
    "\x7d)",
    "",
    "export default router"]

/-- The component that holds the application. -/
def appFile : Text :=
  Template.ofLines [
    "<template>",
    "  <div id=\"app\">",
    "    <div id=\"nav\">",
    "      <router-link to=\"/\">Home</router-link> |",
    "      <router-link to=\"/about\">About</router-link>",
    "    </div>",
    "    <router-view/>",
    "  </div>",
    "</template>"]

/-- The files of a sample project, by their paths. -/
def files (script : Script) : List (Text × Text) :=
  [("package.json", manifest script),
    ("src/main." ++ script.extension, entryFile),
    ("src/router/index." ++ script.extension,
      match script with
      | .javascript => routerFile
      | .typescript => typedRouterFile),
    ("src/App.vue", appFile)]

/-- Where the sample projects lie. -/
def root : Path := ⟨"/my-app"⟩

/-- A sample project in memory. -/
def store (script : Script) : Memory where
  files := (files script).map fun (path, text) => (root.join ⟨path⟩, text)

/-- A manifest that says no more than it has to. -/
def smallManifest : Text := "\x7b\"dependencies\":\x7b\"vue\":\"2\",\"vue-router\":\"3\"\x7d\x7d"

/-- A project in memory, with a small manifest and the given files. -/
def smallStore (files : List (Text × Text)) : Memory where
  files := (root.join ⟨"package.json"⟩, smallManifest) ::
    files.map fun (path, text) => (root.join ⟨path⟩, text)

end RouteLocalizer.Sample
